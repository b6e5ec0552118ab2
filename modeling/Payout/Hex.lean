import Payout.Bytes

/-!
# Hexadecimal text

Bytes are written as two lower-case digits each, the high half first. Reading accepts digits of
either case. The text of a 32-byte value is its digits after `0x`, in full.
-/
namespace Payout.Hex

/-- The digit of a number below 16. -/
def digit (n : Nat) : Char :=
  if n < 10 then Char.ofNat (48 + n) else Char.ofNat (87 + n)

/-- The value of a digit of either case. -/
def digit? (c : Char) : Option Nat :=
  if '0' ≤ c ∧ c ≤ '9' then some (c.toNat - 48)
  else if 'a' ≤ c ∧ c ≤ 'f' then some (c.toNat - 87)
  else if 'A' ≤ c ∧ c ≤ 'F' then some (c.toNat - 55)
  else none

def encode : Bytes → List Char
  | [] => []
  | b :: rest => digit (b.toNat / 16) :: digit (b.toNat % 16) :: encode rest

/-- Reads digits in pairs; an odd number of them is refused. -/
def decode : List Char → Option Bytes
  | [] => some []
  | [_] => none
  | high :: low :: rest => do
    let h ← digit? high
    let l ← digit? low
    let bytes ← decode rest
    return (16 * h + l).toUInt8 :: bytes

theorem digit?_digit : ∀ n < 16, digit? (digit n) = some n := by
  decide

@[simp] theorem length_encode (bytes : Bytes) : (encode bytes).length = 2 * bytes.length := by
  induction bytes with
  | nil => rfl
  | cons b rest ih => simp [encode, ih]; omega

theorem decode_encode (bytes : Bytes) : decode (encode bytes) = some bytes := by
  induction bytes with
  | nil => rfl
  | cons b rest ih =>
    have hb := b.toNat_lt
    have hhigh := digit?_digit (b.toNat / 16) (by omega)
    have hlow := digit?_digit (b.toNat % 16) (by omega)
    have hjoin : (16 * (b.toNat / 16) + b.toNat % 16).toUInt8 = b := by
      rw [Nat.div_add_mod]
      simp
    simp only [encode, decode, hhigh, hlow, ih, Option.bind_eq_bind, Option.bind_some, hjoin]
    rfl

/-- The digits of a byte string as text. -/
def text (bytes : Bytes) : String :=
  String.ofList (encode bytes)

end Payout.Hex

namespace Payout.Bytes32

/-- The full text of a hash: `0x` and 64 lower-case digits. -/
def hex (h : Bytes32) : String :=
  "0x" ++ Hex.text h.toList

/-- The digits alone, as accounts are written. -/
def digits (h : Bytes32) : String :=
  Hex.text h.toList

end Payout.Bytes32
