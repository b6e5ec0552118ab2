import Payout.Crypto.Sha256
import Payout.Crypto.Sha512
import Payout.Key.English
import Payout.Text.PlainLetter

/-!
# Mnemonics

A mnemonic is entropy written as words. Each word stands for eleven bits; the last bits, one for every
three words, are a checksum. Twelve, fifteen, eighteen, twenty-one or twenty-four words are allowed.
Words are compared by their plain letters and stand between any number of blanks.
-/
namespace Payout.Key.Mnemonic

/-- The places of the words of a phrase, if all of them are in the list. -/
def places? (phrase : List Char) : Option (List Nat) :=
  (Text.words phrase).mapM fun word => englishPlace? (word.flatMap Text.plainLetters)

/-- The number whose digits in base 2048, highest first, are given. -/
def number (places : List Nat) : Nat :=
  places.foldl (fun n place => 2048 * n + place) 0

/-- The bytes of a number, highest first. -/
def bigEndian (length n : Nat) : Bytes :=
  (Bytes.ofNat length n).reverse

/-- The first bits, at most eight, of the digest of the entropy. -/
def checksum (bits : Nat) (entropy : Bytes) : Nat :=
  ((Crypto.sha256 entropy).headD 0).toNat >>> (8 - bits)

/-- The entropy of a phrase, if its words, their number and its checksum are right. -/
def entropy? (phrase : List Char) : Option Bytes := do
  let places ← places? phrase
  let count := places.length
  if count ∈ [12, 15, 18, 21, 24] then
    let bits := count / 3
    let entropy := bigEndian (4 * bits) (number places >>> bits)
    if checksum bits entropy = number places % (1 <<< bits) then some entropy else none
  else none

/-- The secret of 32 bytes that entropy and a password give. -/
def secret (entropy : Bytes) (password : List Char) : Bytes32 :=
  let salt := Bytes.ofString ("mnemonic" ++ String.ofList password)
  Bytes32.fit (Crypto.pbkdf2 entropy salt 2048)

end Payout.Key.Mnemonic
