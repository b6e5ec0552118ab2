import Payout.Crypto.Blake2b
import Payout.Json.HexText
import Payout.Scale.Compact

/-!
# Extrinsics

A signed call as it is sent to a node: its length, and then the signer, the signature, how often the signer
has signed before, and the call. Nodes serve the extrinsics of a block as hexadecimal text. The hash of an
extrinsic is taken over its length and its bytes.
-/
namespace Payout

structure Signature where
  toList : Bytes
  length_toList : toList.length = 64

/-- A call with the account that signed it. -/
structure Extrinsic where
  signer : AccountId
  signature : Signature
  nonce : Nat
  call : Bytes

namespace Extrinsic

/-- The version of the format, and the bit that says that it is signed. -/
def version : UInt8 := 0x84

/-- The signer is named by the identifier of the account. -/
def addressKind : UInt8 := 0

def scheme : UInt8 := 1

/-- The extrinsic never becomes stale. -/
def era : UInt8 := 0

/-- What is paid on top of the fee. -/
def tip : Nat := 0

/-- The bytes of an extrinsic without its length. -/
def body (x : Extrinsic) : Bytes :=
  version :: addressKind :: (x.signer.toList ++ scheme :: (x.signature.toList ++
    era :: (Scale.Compact.encode x.nonce ++ (Scale.Compact.encode tip ++ x.call))))

def encode (x : Extrinsic) : Bytes :=
  Scale.encodeBytes x.body

/-- The hash over some bytes and their length. -/
def hashOfBody (body : Bytes) : TxHash :=
  Crypto.blake2b256 (Scale.encodeBytes body)

def hash (x : Extrinsic) : TxHash :=
  hashOfBody x.body

/-- The bytes of an extrinsic as a node serves it. What follows them is ignored. -/
def bodyOfServed? (text : String) : Option Bytes := do
  let bytes ← (Json.bytesOfText text.toList).toOption
  let (body, _) ← Scale.decodeBytes bytes
  return body

end Extrinsic
end Payout
