import Payout.Bytes

/-!
# Base 58

A byte string read as one number and written with fifty-eight digits, the highest first. Leading zero
bytes carry no value and are written as as many leading `1`s. Both directions are the same change of
base, so each undoes the other.
-/
namespace Payout.Address.Base58

/-- The digits of a number, the lowest first, none for zero. -/
def digitsLow (base n : Nat) : List Nat :=
  if n = 0 ∨ base < 2 then [] else n % base :: digitsLow base (n / base)
termination_by n
decreasing_by exact Nat.div_lt_self (by omega) (by omega)

/-- The number whose digits, the lowest first, are given. -/
def valueLow (base : Nat) : List Nat → Nat
  | [] => 0
  | d :: rest => d + base * valueLow base rest

/-- Writes digits of one base in another. Leading zeros are kept as they are. -/
def changeBase (source target : Nat) (digits : List Nat) : List Nat :=
  digits.takeWhile (· = 0) ++ (digitsLow target (valueLow source digits.reverse)).reverse

/-- The digits in order of value: no zero, no capital O or I, no small l. -/
def alphabet : List Char :=
  "123456789ABCDEFGHJKLMNPQRSTUVWXYZabcdefghijkmnopqrstuvwxyz".toList

def digit? (c : Char) : Option Nat :=
  alphabet.idxOf? c

def encode (bytes : Bytes) : List Char :=
  (changeBase 256 58 (bytes.map UInt8.toNat)).map fun d => alphabet.getD d '1'

def decode (text : List Char) : Option Bytes :=
  (text.mapM digit?).map fun digits => (changeBase 58 256 digits).map Nat.toUInt8

end Payout.Address.Base58
