import Payout.Json.Token

/-!
# Hexadecimal strings

Bytes stand in a string as digits of either case, with or without `0x` before them. Blanks among the digits are left
out, and yet they count: the string holds half as many bytes as it has characters, and where digits are missing for
these the last bytes are zero.
-/
namespace Payout.Json

/-- The digit that a byte stands for. -/
def hexByte? (b : UInt8) : Option Nat :=
  Hex.digit? (Char.ofNat b.toNat)

/-- The digits among bytes, blanks being left out. The position counts from the start of the string. -/
def hexDigits (position : Nat) : Bytes → Except Error (List Nat)
  | [] => .ok []
  | b :: rest =>
    if isBlank (Char.ofNat b.toNat) then hexDigits (position + 1) rest
    else
      match hexByte? b with
      | some d => (hexDigits (position + 1) rest).map (d :: ·)
      | none => .error (.invalidDigit b position)

/-- Joins digits in pairs; one that is left alone at the end is dropped. -/
def pairUp : List Nat → Bytes
  | high :: low :: rest => (16 * high + low).toUInt8 :: pairUp rest
  | _ => []

/-- The characters after `0x`, if a string starts so, and where they start. -/
def afterMark : List Char → Nat × List Char
  | '0' :: 'x' :: rest => (2, rest)
  | text => (0, text)

/-- The bytes that a string holds. Of an odd number of characters the first digit is a byte of its own. -/
def bytesOfText (text : List Char) : Except Error Bytes :=
  let (position, digits) := afterMark text
  let bytes := Bytes.ofString (String.ofList digits)
  (hexDigits position bytes).map fun ds =>
    (pairUp (List.replicate (bytes.length % 2) 0 ++ ds)).fit ((bytes.length + 1) / 2)

end Payout.Json
