/-!
# Byte strings

A byte string is a list of bytes. Numbers are written with their lowest byte first, in a fixed
number of bytes. Block hashes, transaction hashes and account identifiers all have exactly 32 bytes.
-/
namespace Payout

abbrev Bytes := List UInt8

namespace Bytes

/-- The `width` low bytes of a number, lowest first. -/
def ofNat : (width : Nat) → Nat → Bytes
  | 0, _ => []
  | width + 1, n => n.toUInt8 :: ofNat width (n / 256)

/-- The number whose bytes, lowest first, are given. -/
def toNat : Bytes → Nat
  | [] => 0
  | b :: rest => b.toNat + 256 * toNat rest

/-- How many byte strings of a length there are: the numbers that fit them are those below. -/
def bound : (length : Nat) → Nat
  | 0 => 1
  | length + 1 => 256 * bound length

@[simp] theorem length_ofNat (width n : Nat) : (ofNat width n).length = width := by
  induction width generalizing n with
  | zero => rfl
  | succ width ih => simp [ofNat, ih]

theorem toNat_ofNat {width n : Nat} (h : n < bound width) : toNat (ofNat width n) = n := by
  induction width generalizing n with
  | zero =>
    have hn : n = 0 := Nat.lt_one_iff.1 h
    simp [ofNat, toNat, hn]
  | succ width ih =>
    have hdiv : n / 256 < bound width := Nat.div_lt_of_lt_mul h
    have hbyte : n.toUInt8.toNat = n % 256 := by simp
    rw [ofNat, toNat, ih hdiv, hbyte]
    omega

theorem toNat_lt (bytes : Bytes) : toNat bytes < bound bytes.length := by
  induction bytes with
  | nil => exact Nat.one_pos
  | cons b rest ih =>
    have hb := b.toNat_lt
    simp only [toNat, List.length_cons, bound]
    omega

/-- The first `count` bytes and what follows them, if there are that many. -/
def split? (count : Nat) (bytes : Bytes) : Option (Bytes × Bytes) :=
  if count ≤ bytes.length then some (bytes.take count, bytes.drop count) else none

theorem split?_append (front rest : Bytes) :
    split? front.length (front ++ rest) = some (front, rest) := by
  simp [split?]

/-- The bytes of a text in UTF-8. -/
def ofString (text : String) : Bytes :=
  text.toUTF8.toList

/-- The text whose UTF-8 bytes are given, if they are such. -/
def toString? (bytes : Bytes) : Option String :=
  String.fromUTF8? ⟨bytes.toArray⟩

/-- Pads with zero bytes at the end, or cuts, to a given length. -/
def fit (length : Nat) (bytes : Bytes) : Bytes :=
  (bytes ++ List.replicate length 0).take length

@[simp] theorem length_fit (length : Nat) (bytes : Bytes) : (fit length bytes).length = length := by
  simp [fit]

end Bytes

/-- Exactly 32 bytes. -/
structure Bytes32 where
  toList : Bytes
  length_toList : toList.length = 32
deriving DecidableEq

namespace Bytes32

@[ext] theorem ext {a b : Bytes32} (h : a.toList = b.toList) : a = b := by
  cases a; cases b; cases h; rfl

/-- Reads 32 bytes out of a byte string of that length. -/
def ofList? (bytes : Bytes) : Option Bytes32 :=
  if h : bytes.length = 32 then some ⟨bytes, h⟩ else none

@[simp] theorem ofList?_toList (a : Bytes32) : ofList? a.toList = some a := by
  simp [ofList?, a.length_toList]

theorem ofList?_eq_some {bytes : Bytes} {a : Bytes32} (h : ofList? bytes = some a) :
    a.toList = bytes := by
  unfold ofList? at h
  split at h
  · cases h; rfl
  · cases h

/-- The first 32 bytes, padded with zeros at the end when there are fewer. -/
def fit (bytes : Bytes) : Bytes32 :=
  ⟨bytes.fit 32, Bytes.length_fit 32 bytes⟩

def repeated (b : UInt8) : Bytes32 :=
  ⟨List.replicate 32 b, by simp⟩

def zero : Bytes32 := repeated 0

instance : Inhabited Bytes32 := ⟨zero⟩

end Bytes32

/-- Identifies a block. -/
abbrev BlockHash := Bytes32

/-- Identifies a transaction. -/
abbrev TxHash := Bytes32

/-- Identifies an account by its public key. -/
abbrev AccountId := Bytes32

/-- An amount of the currency. It has 128 bits. -/
abbrev Balance := BitVec 128

end Payout
