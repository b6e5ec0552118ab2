import Payout.Text.Hidden

/-!
# Quoted text

A text between double quotes, so that all of it can be seen: quotes and backslashes are escaped, the
common control characters have escapes of their own, and every other hidden character is written as its
code point in braces.
-/
namespace Payout.Text

/-- The code point of a character in hexadecimal. -/
def codePoint (c : Char) : List Char :=
  Nat.toDigits 16 c.toNat

/-- A character as it stands between the quotes. -/
def quoteChar (c : Char) : List Char :=
  if c = '"' then ['\\', '"']
  else if c = '\\' then ['\\', '\\']
  else if c = '\n' then ['\\', 'n']
  else if c = '\r' then ['\\', 'r']
  else if c = '\t' then ['\\', 't']
  else if c.toNat = 0 then ['\\', '0']
  else if isHidden c then ['\\', 'u', '\x7b'] ++ codePoint c ++ ['\x7d']
  else [c]

def quote (s : List Char) : String :=
  String.ofList ('"' :: s.flatMap quoteChar ++ ['"'])

end Payout.Text
