import Payout.Bytes

/-!
# The Keccak permutation

A state of twenty-five words in five rows of five, put through twenty-four rounds. Transcripts use it
on states of 200 bytes, each word being eight bytes, lowest first.
-/
namespace Payout.Crypto.Keccak

abbrev State := Vector UInt64 25

/-- What each round adds to the first word. -/
def roundConstants : List UInt64 :=
  [0x0000000000000001, 0x0000000000008082, 0x800000000000808a, 0x8000000080008000,
    0x000000000000808b, 0x0000000080000001, 0x8000000080008081, 0x8000000000008009,
    0x000000000000008a, 0x0000000000000088, 0x0000000080008009, 0x000000008000000a,
    0x000000008000808b, 0x800000000000008b, 0x8000000000008089, 0x8000000000008003,
    0x8000000000008002, 0x8000000000000080, 0x000000000000800a, 0x800000008000000a,
    0x8000000080008081, 0x8000000000008080, 0x0000000080000001, 0x8000000080008008]

/-- How far each word is turned to the left. -/
def rotations : Vector UInt64 25 :=
  #v[0, 1, 62, 28, 27, 36, 44, 6, 55, 20, 3, 10, 43, 25, 39, 41, 45, 15, 21, 8, 18, 2, 61, 56, 14]

def rotateLeft (x n : UInt64) : UInt64 :=
  if n = 0 then x else (x <<< n) ||| (x >>> (64 - n))

/-- The word in column `x` and row `y`, both taken modulo five. -/
def lane (s : State) (x y : Nat) : UInt64 :=
  s[x % 5 + 5 * (y % 5)]

/-- Adds to each word the parities of two neighbouring columns. -/
def theta (s : State) : State :=
  let parity : Vector UInt64 5 := Vector.ofFn fun x : Fin 5 =>
    lane s x 0 ^^^ lane s x 1 ^^^ lane s x 2 ^^^ lane s x 3 ^^^ lane s x 4
  Vector.ofFn fun i : Fin 25 =>
    s[i] ^^^ parity[(i.val + 4) % 5] ^^^ rotateLeft parity[(i.val + 1) % 5] 1

/-- Turns every word, then moves the word at column `x`, row `y` to column `y`, row `2x + 3y`. -/
def rhoPi (s : State) : State :=
  Vector.ofFn fun i : Fin 25 =>
    let x := i.val % 5
    let y := i.val / 5
    let source := (x + 3 * y) % 5 + 5 * x
    rotateLeft (s.getD source 0) (rotations.getD source 0)

/-- Mixes each word with the next two of its row. -/
def chi (s : State) : State :=
  Vector.ofFn fun i : Fin 25 =>
    let x := i.val % 5
    let y := i.val / 5
    lane s x y ^^^ (~~~ lane s (x + 1) y &&& lane s (x + 2) y)

def round (s : State) (constant : UInt64) : State :=
  let s := chi (rhoPi (theta s))
  s.set 0 (s[0] ^^^ constant)

def permute (s : State) : State :=
  roundConstants.foldl round s

/-- The permutation on 200 bytes. -/
def permuteBytes (bytes : Vector UInt8 200) : Vector UInt8 200 :=
  let words : State := Vector.ofFn fun i : Fin 25 =>
    (Bytes.toNat ((bytes.toList.drop (8 * i)).take 8)).toUInt64
  let words := permute words
  Vector.ofFn fun i : Fin 200 => (words.getD (i.val / 8) 0 >>> (8 * (i.val % 8)).toUInt64).toUInt8

end Payout.Crypto.Keccak
