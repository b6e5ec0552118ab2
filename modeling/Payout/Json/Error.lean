import Payout.Decimal.Shortest
import Payout.Text.Quoted

/-!
# What is wrong with a JSON text

Either the text is not JSON, or it is and holds something else than was asked for. Where the fault is in
the text is not told.
-/
namespace Payout.Json

/-- A number: whole and not negative, whole and negative, or any other. -/
inductive Number where
  | natural (n : Nat)
  | negative (n : Nat)
  | float (f : Float)

/-- What was found in place of what was asked for. -/
inductive Found where
  | null
  | bool (b : Bool)
  | number (n : Number)
  | string (s : List Char)
  | list
  | object

def Number.describe : Number → String
  | natural n => "integer `" ++ toString n ++ "`"
  | negative n => "integer `-" ++ toString n ++ "`"
  | float f => "floating point `" ++ Decimal.text f ++ "`"

def Found.describe : Found → String
  | null => "null"
  | bool b => "boolean `" ++ (if b then "true" else "false") ++ "`"
  | number n => n.describe
  | string s => "string " ++ Text.quote s
  | list => "sequence"
  | object => "map"

inductive Error where
  | endInValue
  | endInList
  | endInObject
  | endInString
  | expectedColon
  | expectedListEnd
  | expectedObjectEnd
  | expectedWord
  | expectedValue
  | keyNotString
  | trailingComma
  | trailingCharacters
  | controlCharacter
  | invalidEscape
  | invalidNumber
  | numberOutOfRange
  | loneSurrogate
  | endOfEscape
  | wrongType (found : Found) (expected : String)
  | wrongLength (length : Nat) (expected : String)
  | invalidDigit (byte : UInt8) (position : Nat)
  | missingField (name : String)
  | duplicateField (name : String)

def Error.message : Error → String
  | endInValue => "EOF while parsing a value"
  | endInList => "EOF while parsing a list"
  | endInObject => "EOF while parsing an object"
  | endInString => "EOF while parsing a string"
  | expectedColon => "expected `:`"
  | expectedListEnd => "expected `,` or `]`"
  | expectedObjectEnd => "expected `,` or `\x7d`"
  | expectedWord => "expected ident"
  | expectedValue => "expected value"
  | keyNotString => "key must be a string"
  | trailingComma => "trailing comma"
  | trailingCharacters => "trailing characters"
  | controlCharacter => "control character (\\u0000-\\u001F) found while parsing a string"
  | invalidEscape => "invalid escape"
  | invalidNumber => "invalid number"
  | numberOutOfRange => "number out of range"
  | loneSurrogate => "lone leading surrogate in hex escape"
  | endOfEscape => "unexpected end of hex escape"
  | wrongType found expected => "invalid type: " ++ found.describe ++ ", expected " ++ expected
  | wrongLength length expected => "invalid length " ++ toString length ++ ", expected " ++ expected
  | invalidDigit byte position =>
    "invalid hex character: " ++ String.singleton (Char.ofNat byte.toNat) ++ ", at " ++
      toString position
  | missingField name => "missing field `" ++ name ++ "`"
  | duplicateField name => "duplicate field `" ++ name ++ "`"

end Payout.Json
