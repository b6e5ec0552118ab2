import Payout.Bytes

/-!
# Compact numbers

A number in as few bytes as its size asks for. The two low bits of the first byte tell the form: one,
two or four bytes holding the number above those bits, or a count of bytes followed by the number.
Reading refuses a number that is written in a longer form than it needs, so every number has one form.
-/
namespace Payout.Scale.Compact

/-- How many bytes a number needs. -/
def byteCount (n : Nat) : Nat :=
  if n = 0 then 0 else byteCount (n / 256) + 1
termination_by n
decreasing_by omega

def encode (n : Nat) : Bytes :=
  if n < 64 then Bytes.ofNat 1 (4 * n)
  else if n < 16384 then Bytes.ofNat 2 (4 * n + 1)
  else if n < 1073741824 then Bytes.ofNat 4 (4 * n + 2)
  else (4 * (byteCount n - 4) + 3).toUInt8 :: Bytes.ofNat (byteCount n) n

/-- Keeps a number that is no smaller than its form is for. -/
def atLeast (least : Nat) (n : Nat) (rest : Bytes) : Option (Nat × Bytes) :=
  if least ≤ n then some (n, rest) else none

/-- The number at the start of a byte string, and what follows it. -/
def decode : Bytes → Option (Nat × Bytes)
  | [] => none
  | b :: rest =>
    match b.toNat % 4 with
    | 0 => some (b.toNat / 4, rest)
    | 1 => do
      let (more, rest) ← Bytes.split? 1 rest
      atLeast 64 (Bytes.toNat (b :: more) / 4) rest
    | 2 => do
      let (more, rest) ← Bytes.split? 3 rest
      atLeast 16384 (Bytes.toNat (b :: more) / 4) rest
    | _ => do
      let (bytes, rest) ← Bytes.split? (b.toNat / 4 + 4) rest
      atLeast (max 1073741824 (Bytes.bound (b.toNat / 4 + 3))) (Bytes.toNat bytes) rest

/-- The same, for a number that has to be below a bound. -/
def decodeBelow (bound : Nat) (bytes : Bytes) : Option (Nat × Bytes) :=
  match decode bytes with
  | some (n, rest) => if n < bound then some (n, rest) else none
  | none => none

end Compact

/-- A byte string after its compact length. -/
def encodeBytes (bytes : Bytes) : Bytes :=
  Compact.encode bytes.length ++ bytes

/-- The byte string after a compact length below `2^32`, and what follows it. -/
def decodeBytes (bytes : Bytes) : Option (Bytes × Bytes) :=
  match Compact.decodeBelow (Bytes.bound 4) bytes with
  | some (length, rest) => Bytes.split? length rest
  | none => none

end Payout.Scale
