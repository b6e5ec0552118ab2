/-!
# Shortest decimal text of a binary number

A finite double stands for every real that rounds to it. Its shortest text has the fewest digits that
name a real of that interval, and of these the nearest to the double itself. The search tries one digit,
then two, and so on, on the two points of the decimal grid on either side of the double, in exact
arithmetic.
-/
namespace Payout.Decimal

/-- A fraction of natural numbers. -/
structure Fraction where
  top : Nat
  bottom : Nat

/-- The product with a power of two that may be a fraction. -/
def Fraction.shift (n : Nat) (e : Int) : Fraction :=
  if 0 ≤ e then ⟨n <<< e.toNat, 1⟩ else ⟨n, 1 <<< (-e).toNat⟩

def Fraction.scale10 (f : Fraction) (e : Int) : Fraction :=
  if 0 ≤ e then ⟨f.top * Nat.pow 10 e.toNat, f.bottom⟩
  else ⟨f.top, f.bottom * Nat.pow 10 (-e).toNat⟩

def Fraction.floor (f : Fraction) : Nat :=
  f.top / f.bottom

/-- A positive double as a whole number times a power of two. -/
def mantissa (bits : UInt64) : Nat × Int :=
  let low := (bits &&& 0x000fffffffffffff).toNat
  let exponent := ((bits >>> 52) &&& 0x7ff).toNat
  if exponent = 0 then (low, -1074) else (low + 1 <<< 52, (exponent : Int) - 1075)

/-- The exponent of ten of the first digit. -/
def leadExponent (f : Fraction) : Int :=
  if f.bottom ≤ f.top then
    (((Nat.repr f.floor).length : Nat) : Int) - 1
  else
    match (List.range 400).find? fun j => f.bottom ≤ f.top * Nat.pow 10 j with
    | some j => -(j : Int)
    | none => -400

/-- Four times the double and the ends of its interval, in quarters of its last place. The gap below a
power of two is half as wide as that above. -/
structure Interval where
  low : Nat
  middle : Nat
  high : Nat
  exponent : Int
  closed : Bool

def Interval.ofBits (bits : UInt64) : Interval :=
  let (m, e) := mantissa bits
  let narrow := m = 1 <<< 52 ∧ e > -1074
  ⟨4 * m - (if narrow then 1 else 2), 4 * m, 4 * m + 2, e - 2, m % 2 = 0⟩

/-- The point of a decimal grid lies in the interval. -/
def Interval.holds (i : Interval) (point : Nat) (grid : Int) : Bool :=
  let at10 (n : Nat) : Fraction := (Fraction.shift n i.exponent).scale10 (-grid)
  let low := at10 i.low
  let high := at10 i.high
  if i.closed then low.top ≤ point * low.bottom && point * high.bottom ≤ high.top
  else low.top < point * low.bottom && point * high.bottom < high.top

/-- The point of a decimal grid that is in the interval and nearest to its middle, of two equally near
ones the even one. -/
def Interval.nearest? (i : Interval) (grid : Int) : Option Nat :=
  let f := (Fraction.shift i.middle i.exponent).scale10 (-grid)
  let below := f.floor
  let above := below + 1
  let twice := 2 * (f.top - below * f.bottom)
  let preferBelow := twice < f.bottom || (twice = f.bottom && below % 2 = 0)
  match i.holds below grid && below != 0, i.holds above grid with
  | true, true => some (if preferBelow then below else above)
  | true, false => some below
  | false, true => some above
  | false, false => none

/-- Drops the zeros at the end of a numeral, counting them. -/
def dropZeros : (fuel : Nat) → Nat → Int → Nat × Int
  | 0, n, e => (n, e)
  | fuel + 1, n, e => if n % 10 = 0 then dropZeros fuel (n / 10) (e + 1) else (n, e)

/-- The digits of a positive double and the exponent of ten of the last one. -/
def shortest (bits : UInt64) : Nat × Int :=
  let i := Interval.ofBits bits
  let lead := leadExponent (Fraction.shift i.middle i.exponent)
  let grids : List Int := (List.range 18).map fun (count : Nat) => lead - Int.ofNat count
  match grids.findSome? fun grid => (i.nearest? grid).map fun n => (n, grid) with
  | some (n, grid) => dropZeros 18 n grid
  | none => (0, 0)

/-- Digits with their exponent as text: positional from `1e-5` up to sixteen places before the point,
always with a digit after the point; otherwise with an exponent after one leading digit. -/
def layout (digits : Nat) (exponent : Int) : String :=
  let ds := Nat.repr digits
  let length : Int := (ds.length : Nat)
  let point := length + exponent
  let zeros (n : Int) : String := "".pushn '0' n.toNat
  let cut (n : Nat) : String × String := (String.ofList (ds.toList.take n), String.ofList (ds.toList.drop n))
  if 0 ≤ exponent ∧ point ≤ 16 then ds ++ zeros exponent ++ ".0"
  else if 0 < point ∧ point ≤ 16 then
    let parts := cut point.toNat
    parts.1 ++ "." ++ parts.2
  else if -5 < point ∧ point ≤ 0 then "0." ++ zeros (-point) ++ ds
  else if length = 1 then ds ++ "e" ++ toString (point - 1)
  else
    let parts := cut 1
    parts.1 ++ "." ++ parts.2 ++ "e" ++ toString (point - 1)

/-- The text of a finite double. -/
def text (f : Float) : String :=
  let bits := f.toBits
  let magnitude := bits &&& 0x7fffffffffffffff
  let sign := if bits = magnitude then "" else "-"
  if magnitude = 0 then sign ++ "0.0"
  else
    let (digits, exponent) := shortest magnitude
    sign ++ layout digits exponent

end Payout.Decimal
