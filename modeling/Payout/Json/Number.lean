import Payout.Json.Token

/-!
# Values of JSON numbers

A number is read as digits and a power of ten. The digits are kept as long as they fit 64 bits; those that
follow count towards the power if they stand before the point, and not at all if they stand after it. A
number without fraction and exponent is whole unless it does not fit 64 bits; any other is a float.
-/
namespace Payout.Json

/-- The digits of a number can be at most this. -/
def maxDigits : Nat := Bytes.bound 8 - 1

/-- The power of ten of a number is at most this, and at least one less than its negative. -/
def maxExponent : Nat := 2147483647

/-- Divides by a power of ten that may be too large for a float, at most `10^308` at a time. -/
def scaleDown (f : Float) (exponent : Nat) : Float :=
  if exponent ≤ 308 then f / Float.ofScientific 1 false exponent
  else if f == 0.0 then f
  else scaleDown (f / 1e308) (exponent - 308)
termination_by exponent

/-- Multiplies by a power of ten, as long as the result is finite. -/
def scaleUp (f : Float) (exponent : Nat) : Except Error Float :=
  if exponent ≤ 308 then
    let f := f * Float.ofScientific 1 false exponent
    if f.isInf then .error .numberOutOfRange else .ok f
  else if f == 0.0 then .ok f
  else .error .numberOutOfRange

/-- The float of given sign, digits and power of ten. -/
def floatOf (negative : Bool) (significand : Nat) (exponent : Int) : Except Error Float := do
  let f := Float.ofNat significand
  let f ← if exponent < 0 then pure (scaleDown f exponent.natAbs) else scaleUp f exponent.toNat
  return if negative then -f else f

/-- Takes digits while they fit. Gives how many were taken, their value after the value before them, and
what follows. -/
def takeDigits (bound : Nat) (value : Nat) : List Char → Nat × Nat × List Char
  | [] => (0, value, [])
  | c :: rest =>
    match Numeral.digit? c with
    | some d =>
      if 10 * value + d ≤ bound then
        let (count, value, rest) := takeDigits bound (10 * value + d) rest
        (count + 1, value, rest)
      else (0, value, c :: rest)
    | none => (0, value, c :: rest)

/-- The power of ten, kept within its bounds. -/
def clampExponent (e : Int) : Int :=
  max (-(maxExponent + 1 : Int)) (min maxExponent e)

/-- A number whose exponent is too large to be read is zero, unless it is too large itself. -/
def readHugeExponent (negative : Bool) (significand : Nat) (up : Bool) (s : List Char) :
    Read Number :=
  if significand ≠ 0 ∧ up then .error .numberOutOfRange
  else .ok (.float (if negative then -0.0 else 0.0), s.dropWhile Char.isDigit)

/-- Reads the exponent of a number, its letter having been taken. -/
def readExponent (negative : Bool) (significand : Nat) (start : Int) (s : List Char) :
    Read Number :=
  let (up, s) := match s with
    | '+' :: rest => (true, rest)
    | '-' :: rest => (false, rest)
    | s => (true, s)
  match s with
  | [] => .error .endInValue
  | c :: _ =>
    if c.isDigit then
      let (_, e, rest) := takeDigits maxExponent 0 s
      if (rest.head?.map Char.isDigit).getD false then
        readHugeExponent negative significand up rest
      else
        let e := clampExponent (if up then start + e else start - e)
        (floatOf negative significand e).map fun f => (.float f, rest)
    else .error .invalidNumber

/-- Reads what follows the digits of a number that is a float. -/
def readScale (negative : Bool) (significand : Nat) (exponent : Int) (s : List Char) :
    Read Number :=
  match s with
  | 'e' :: rest => readExponent negative significand exponent rest
  | 'E' :: rest => readExponent negative significand exponent rest
  | s => (floatOf negative significand exponent).map fun f => (.float f, s)

/-- Reads the digits after the point. -/
def readDecimals (negative : Bool) (significand : Nat) (exponent : Nat) (s : List Char) :
    Read Number :=
  match s with
  | [] => .error .endInValue
  | c :: _ =>
    if c.isDigit then
      let (count, significand, rest) := takeDigits maxDigits significand s
      readScale negative significand (exponent - count : Int) (rest.dropWhile Char.isDigit)
    else .error .invalidNumber

/-- Reads what follows the whole part of a number, `dropped` digits of which did not fit. -/
def readFraction (negative : Bool) (significand dropped : Nat) (s : List Char) : Read Number :=
  match s with
  | '.' :: rest => readDecimals negative significand dropped rest
  | s => readScale negative significand dropped s

/-- A whole number. Zero with a sign is a float, and so is a negative number that does not fit. -/
def wholeNumber (negative : Bool) (n : Nat) : Number :=
  if negative then
    if n = 0 ∨ Bytes.bound 8 < 2 * n then .float (-(Float.ofNat n)) else .negative n
  else .natural n

/-- Reads a number, its sign having been taken. -/
def readNumber (negative : Bool) (s : List Char) : Read Number :=
  match s with
  | [] => .error .endInValue
  | c :: _ =>
    if !c.isDigit then .error .invalidNumber
    else
      let (whole, rest) := digits s
      if c = '0' ∧ 1 < whole.length then .error .invalidNumber
      else
        let (count, significand, _) := takeDigits maxDigits 0 whole
        let dropped := whole.length - count
        match rest with
        | '.' :: _ => readFraction negative significand dropped rest
        | 'e' :: _ => readFraction negative significand dropped rest
        | 'E' :: _ => readFraction negative significand dropped rest
        | _ =>
          if dropped = 0 then .ok (wholeNumber negative significand, rest)
          else readFraction negative significand dropped rest

end Payout.Json
