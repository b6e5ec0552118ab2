import Payout.Address.Base58
import Payout.Crypto.Blake2b

/-!
# SS58 addresses

The text of an account: a network prefix of one or two bytes, the account's 32 bytes and the first two
bytes of a digest of both, in base 58. Reading accepts every prefix; writing uses the generic one.
-/
namespace Payout.Address.Ss58

/-- The first two bytes of the digest of a prefix and a body. -/
def checksum (bytes : Bytes) : Bytes :=
  (Crypto.blake2b512 (Bytes.ofString "SS58PRE" ++ bytes)).take 2

/-- The prefix of the generic network. -/
def genericPrefix : Bytes := [42]

/-- One byte below 64, or two of which the first is from 64 to 127. -/
def IsPrefix : Bytes → Prop
  | [b] => b.toNat < 64
  | [b, _] => 64 ≤ b.toNat ∧ b.toNat < 128
  | _ => False

/-- How long the prefix is that starts with a given byte. -/
def prefixLength? (first : UInt8) : Option Nat :=
  if first.toNat < 64 then some 1 else if first.toNat < 128 then some 2 else none

def encodeWith (network : Bytes) (account : AccountId) : List Char :=
  let body := network ++ account.toList
  Base58.encode (body ++ checksum body)

def encode (account : AccountId) : String :=
  String.ofList (encodeWith genericPrefix account)

/-- Reads prefix, account and checksum out of the bytes of an address. -/
def decodeBytes (bytes : Bytes) : Option AccountId := do
  let first ← bytes.head?
  let length ← prefixLength? first
  if bytes.length = length + 34 ∧
      bytes.drop (length + 32) = checksum (bytes.take (length + 32)) then
    Bytes32.ofList? ((bytes.drop length).take 32)
  else none

def decode (text : List Char) : Option AccountId := do
  let bytes ← Base58.decode text
  decodeBytes bytes

end Payout.Address.Ss58
