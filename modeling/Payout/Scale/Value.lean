import Payout.Bytes

/-!
# Dynamic values

A value whose shape is known only from the runtime's description of its types: numbers, texts, and
composites of such values, with a label for every item or with none, and with the name of a variant or
without one. Numbers have 128 bits; one that takes more is kept as its bytes. Bytes are a composite of numbers.
-/
namespace Payout.Scale

inductive Value where
  | unsigned (n : BitVec 128)
  /-- A number that may be negative, in two's complement. -/
  | signed (n : BitVec 128)
  /-- The bytes of a number of more than 128 bits, the lowest first. -/
  | wide (isSigned : Bool) (bytes : Bytes)
  | bool (b : Bool)
  | text (s : String)
  | composite (labels : List String) (items : List Value)
  | variant (name : String) (labels : List String) (items : List Value)

namespace Value

/-- Items without labels. -/
def tuple (items : List Value) : Value :=
  composite [] items

/-- A variant whose items have no labels. -/
def call (name : String) (items : List Value) : Value :=
  variant name [] items

def byte (b : UInt8) : Value :=
  unsigned (.ofNat 128 b.toNat)

/-- Bytes as a composite of numbers. -/
def bytes (bs : Bytes) : Value :=
  tuple (bs.map byte)

/-- The item under a label. Only composites and variants with labels have any. -/
def field? (label : String) : Value → Option Value
  | composite labels items => (labels.zip items).lookup label
  | variant _ labels items => (labels.zip items).lookup label
  | _ => none

/-- The number of an unsigned value that has 128 bits. None is taken of a value that may be negative, even where it
is not, nor of a wider one. -/
def unsigned? : Value → Option (BitVec 128)
  | unsigned n => some n
  | _ => none

theorem toNat_ofNat_byte (b : UInt8) : (BitVec.ofNat 128 b.toNat).toNat = b.toNat := by
  have hb := b.toNat_lt
  exact Nat.mod_eq_of_lt (by omega)

theorem byte_injective {a b : UInt8} (h : byte a = byte b) : a = b := by
  have hnat := congrArg BitVec.toNat (unsigned.inj h)
  rw [toNat_ofNat_byte, toNat_ofNat_byte] at hnat
  exact UInt8.toNat_inj.1 hnat

theorem bytes_injective {a b : Bytes} (h : bytes a = bytes b) : a = b := by
  simp only [bytes, tuple, composite.injEq, true_and] at h
  exact (List.map_inj_right fun _ _ => byte_injective).1 h

end Value

/-- What sort of thing a value is, as far as a complaint about it tells. -/
inductive Shape where
  | number
  | text
  | bool
  | composite
deriving DecidableEq, Repr

def Shape.name : Shape → String
  | number => "Number"
  | text => "Str"
  | bool => "Bool"
  | composite => "Tuple"

/-- A variant counts as the text of its name. -/
def Value.shape : Value → Shape
  | unsigned _ => .number
  | signed _ => .number
  | wide _ _ => .number
  | bool _ => .bool
  | text _ => .text
  | composite _ _ => .composite
  | variant _ _ _ => .text

end Payout.Scale
