import Payout.Bytes

/-!
# The ristretto255 group

Points of a twisted Edwards curve over the integers modulo `2^255 - 19`, in extended coordinates, and
the 32 bytes that stand for a point up to the points of small order. Only what key derivation needs is
here: multiples of the base point and their encoding.
-/
namespace Payout.Crypto.Ristretto

/-- The number of field elements. -/
def modulus : Nat := 1 <<< 255 - 19

/-- The number of group elements. -/
def order : Nat := 1 <<< 252 + 27742317777372353535851937790883648493

/-- The coefficient of the curve `-x² + y² = 1 + d x² y²`. -/
def coefficient : Nat :=
  37095705934669439343138083508754565189542113879843219016388785533085940283555

/-- A square root of minus one. -/
def imaginaryUnit : Nat :=
  19681161376707505956807079304988542015446066515923890162744021073123829784752

/-- The inverse of a square root of `-1 - d`. -/
def inverseRoot : Nat :=
  54469307008909316920995813868745141605393597292927456921205312896311721017578

def add (a b : Nat) : Nat := (a + b) % modulus

def sub (a b : Nat) : Nat := (a + (modulus - b)) % modulus

def mul (a b : Nat) : Nat := a * b % modulus

/-- The power of a field element, by repeated squaring. -/
def pow (a : Nat) (e : Nat) : Nat :=
  if e = 0 then 1
  else
    let r := pow (mul a a) (e / 2)
    if e % 2 = 1 then mul a r else r
termination_by e
decreasing_by omega

/-- A field element counts as negative when its least representative is odd. -/
def isNegative (a : Nat) : Bool := a % 2 = 1

/-- The one of an element and its negative that is not negative. -/
def abs (a : Nat) : Nat := if isNegative a then sub 0 a else a

/-- The inverse of the square root of an element that is a square, or zero; for an element that is not
a square, that of the element times the square root of minus one. -/
def inverseSquareRoot (v : Nat) : Nat :=
  let v3 := mul (mul v v) v
  let v7 := mul (mul v3 v3) v
  let r := mul v3 (pow v7 ((modulus - 5) / 8))
  let check := mul v (mul r r)
  if check = sub 0 1 ∨ check = sub 0 imaginaryUnit then abs (mul r imaginaryUnit) else abs r

/-- A point in extended coordinates: `x/z`, `y/z` and `xy/z` over `z`. -/
structure Point where
  x : Nat
  y : Nat
  z : Nat
  t : Nat

namespace Point

def identity : Point := ⟨0, 1, 1, 0⟩

/-- The base point, with `y = 4/5` and a `x` that is not negative. -/
def base : Point :=
  let x := 15112221349535400772501151409588531511454012693041857206046113283949847762202
  let y := 46316835694926478169428394003475163141307993866256225615783033603165251855960
  ⟨x, y, 1, mul x y⟩

/-- The complete addition law. -/
def add (p q : Point) : Point :=
  let a := mul (sub p.y p.x) (sub q.y q.x)
  let b := mul (Ristretto.add p.y p.x) (Ristretto.add q.y q.x)
  let c := mul (mul (2 * coefficient) p.t) q.t
  let d := mul (2 * p.z) q.z
  let e := sub b a
  let f := sub d c
  let g := Ristretto.add d c
  let h := Ristretto.add b a
  ⟨mul e f, mul g h, mul f g, mul e h⟩

/-- The multiple of a point, by repeated doubling. -/
def smul (n : Nat) (p : Point) : Point :=
  if n = 0 then identity
  else
    let r := smul (n / 2) (p.add p)
    if n % 2 = 1 then r.add p else r
termination_by n
decreasing_by omega

/-- The 32 bytes that stand for a point. -/
def compress (p : Point) : Bytes32 :=
  let u1 := mul (Ristretto.add p.z p.y) (sub p.z p.y)
  let u2 := mul p.x p.y
  let root := inverseSquareRoot (mul u1 (mul u2 u2))
  let i1 := mul root u1
  let i2 := mul root u2
  let zInverse := mul i1 (mul i2 p.t)
  let turned := isNegative (mul p.t zInverse)
  let x := if turned then mul p.y imaginaryUnit else p.x
  let y := if turned then mul p.x imaginaryUnit else p.y
  let denominator := if turned then mul i1 inverseRoot else i2
  let y := if isNegative (mul x zInverse) then sub 0 y else y
  Bytes32.fit (Bytes.ofNat 32 (abs (mul denominator (sub p.z y))))

end Point
end Payout.Crypto.Ristretto
