import Payout.Crypto.Blake2b
import Payout.Crypto.Schnorr
import Payout.Hex
import Payout.Key.Mnemonic
import Payout.Key.SecretUri
import Payout.Numeral
import Payout.Scale.Compact

/-!
# Key pairs from seeds

A seed is a secret URI. Its phrase gives the root key: sixty-four hexadecimal digits after `0x` are the
secret itself, and anything else is a mnemonic, stretched with the password. An absent phrase stands for
the phrase of development chains. The junctions are then followed from the left.
-/
namespace Payout.Key

/-- Why a seed gives no key. -/
inductive SeedError where
  | invalidFormat
  | invalidPhrase
  | invalidSeed
deriving DecidableEq, Repr

namespace SeedError

def name : SeedError → String
  | invalidFormat => "InvalidFormat"
  | invalidPhrase => "InvalidPhrase"
  | invalidSeed => "InvalidSeed"

def message (e : SeedError) : String :=
  "Can't create pair from seed value: " ++ e.name

end SeedError

/-- The phrase of development chains. -/
def developmentPhrase : List Char :=
  "bottom drive obey lake curtain smoke basket hold race lonely fit walk".toList

/-- The number a name stands for, if it stands for one below `2^64`. -/
def Junction.number? (name : List Char) : Option Nat :=
  (Numeral.read (Bytes.bound 8 - 1) name).toOption

/-- The bytes that name a child: a number in eight bytes, any other name as its length and its text. -/
def Junction.nameBytes (name : List Char) : Bytes :=
  match number? name with
  | some n => Bytes.ofNat 8 n
  | none => Scale.encodeBytes (Bytes.ofString (String.ofList name))

/-- The chain code of a name: its bytes padded with zeros, or their digest when there are more than
32. -/
def Junction.chainCode (name : List Char) : Bytes32 :=
  let bytes := nameBytes name
  if bytes.length ≤ 32 then Bytes32.fit bytes else Crypto.blake2b256 bytes

structure KeyPair where
  secret : Crypto.Schnorr.SecretKey
deriving DecidableEq

namespace KeyPair

/-- The account is named by the public key. -/
def account (pair : KeyPair) : AccountId :=
  pair.secret.publicKey

/-- The key that a secret of 32 bytes expands to. -/
def ofSecret (secret : Bytes32) : KeyPair :=
  ⟨.expand secret⟩

def derive (pair : KeyPair) (j : Junction) : KeyPair :=
  let chainCode := Junction.chainCode j.name
  ⟨if j.hard then pair.secret.hard chainCode else pair.secret.soft chainCode⟩

/-- The secret that hexadecimal digits give; a second `0x` in front of them is skipped. -/
def hexSecret? (digits : List Char) : Option Bytes32 := do
  let digits := match digits with
    | '0' :: 'x' :: digits => digits
    | digits => digits
  let bytes ← Hex.decode digits
  Bytes32.ofList? bytes

/-- The root key of a phrase and a password. -/
def root (phrase password : List Char) : Except SeedError KeyPair :=
  match phrase with
  | '0' :: 'x' :: digits =>
    match hexSecret? digits with
    | some secret => .ok (ofSecret secret)
    | none => .error .invalidSeed
  | phrase =>
    match Mnemonic.entropy? phrase with
    | some entropy => .ok (ofSecret (Mnemonic.secret entropy password))
    | none => .error .invalidPhrase

/-- The key that a secret URI leads to. -/
def ofUri (uri : SecretUri) : Except SeedError KeyPair := do
  let phrase := if uri.phrase = [] then developmentPhrase else uri.phrase
  let pair ← root phrase (uri.password.getD [])
  return uri.junctions.foldl derive pair

def ofSeed (seed : String) : Except SeedError KeyPair :=
  match SecretUri.parse seed.toList with
  | some uri => ofUri uri
  | none => .error .invalidFormat

end KeyPair
end Payout.Key
