import Payout.Crypto.Ristretto
import Payout.Crypto.Sha512
import Payout.Crypto.Transcript

/-!
# Hierarchical Schnorr keys

A secret of 32 bytes is expanded into a scalar; the public key is that multiple of the base point. A
key has two kinds of children, each named by a chain code: hard ones, found from the secret scalar,
and soft ones, which differ from it by a scalar found from the public key.
-/
namespace Payout.Crypto.Schnorr

/-- A secret scalar. -/
structure SecretKey where
  scalar : Nat
deriving DecidableEq

namespace SecretKey

/-- Expands a secret: half its digest, with the high bits set so as to fix the length and the three low
bits dropped. -/
def expand (secret : Bytes32) : SecretKey :=
  let n := Bytes.toNat ((sha512 secret.toList).take 32)
  ⟨(n % (1 <<< 254) + 1 <<< 254) / 8⟩

def publicKey (key : SecretKey) : Bytes32 :=
  (Ristretto.Point.base.smul key.scalar).compress

def bytes (key : SecretKey) : Bytes :=
  Bytes.ofNat 32 key.scalar

/-- The transcript that both kinds of derivation start from. -/
def derivation (chainCode : Bytes32) : Transcript :=
  ((Transcript.new "SchnorrRistrettoHDKD").say "sign-bytes" []).say "chain-code" chainCode.toList

/-- The child that only the secret key leads to. -/
def hard (key : SecretKey) (chainCode : Bytes32) : SecretKey :=
  let t := (derivation chainCode).say "secret-key" key.bytes
  expand (Bytes32.fit (t.challenge "HDKD-hard" 32).1)

/-- The child whose public key the parent's public key leads to. -/
def soft (key : SecretKey) (chainCode : Bytes32) : SecretKey :=
  let t := (derivation chainCode).say "public-key" key.publicKey.toList
  let shift := Bytes.toNat (t.challenge "HDKD-scalar" 64).1
  ⟨(key.scalar + shift) % Ristretto.order⟩

end SecretKey
end Payout.Crypto.Schnorr
