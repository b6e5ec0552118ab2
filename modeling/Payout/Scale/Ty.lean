import Payout.Scale.Compact
import Payout.Scale.Value

/-!
# Types of the runtime

A runtime describes the types of its calls, storage and events as data. A value is encoded by
recursion on its type, and the bytes of a value are read by recursion on the same type.
-/
namespace Payout.Scale

mutual

/-- A type. The width of a number is its number of bytes when it is not compact; values of more than 16 bytes are
kept as their bytes. -/
inductive Ty where
  | bool
  | text
  | unsigned (width : Nat)
  | signed (width : Nat)
  | compact (width : Nat)
  | sequence (item : Ty)
  | array (length : Nat) (item : Ty)
  | composite (labels : List String) (items : Types)
  | enumeration (cases : Cases)
deriving DecidableEq

/-- Types one after another. -/
inductive Types where
  | nil
  | cons (head : Ty) (tail : Types)
deriving DecidableEq

/-- The cases of an enumeration, each with the byte that stands for it. -/
inductive Cases where
  | nil
  | cons (name : String) (index : UInt8) (labels : List String) (items : Types) (rest : Cases)
deriving DecidableEq

end

def Types.ofList : List Ty → Types
  | [] => .nil
  | t :: rest => .cons t (ofList rest)

def Types.length : Types → Nat
  | .nil => 0
  | .cons _ rest => rest.length + 1

/-- A case whose items have no labels. -/
structure Case where
  name : String
  index : UInt8
  items : List Ty

def Cases.ofList : List Case → Cases
  | [] => .nil
  | c :: rest => .cons c.name c.index [] (Types.ofList c.items) (ofList rest)

/-- The byte and the items of the first case of a name. -/
def Cases.find? (name : String) : Cases → Option (UInt8 × Types)
  | .nil => none
  | .cons n index _ items rest => if n = name then some (index, items) else rest.find? name

/-- Some case has the byte. -/
def Cases.hasIndex (index : UInt8) : Cases → Bool
  | .nil => false
  | .cons _ i _ _ rest => i = index || rest.hasIndex index

namespace Ty

/-- Items without labels. -/
def tuple (items : List Ty) : Ty :=
  .composite [] (Types.ofList items)

/-- Items under labels. -/
def record (fields : List (String × Ty)) : Ty :=
  .composite (fields.map Prod.fst) (Types.ofList (fields.map Prod.snd))

def unit : Ty := tuple []

def bytes : Ty := .sequence (.unsigned 1)

/-- A type or nothing. -/
def option (t : Ty) : Ty :=
  .enumeration (Cases.ofList [⟨"None", 0, []⟩, ⟨"Some", 1, [t]⟩])

end Ty

/-- Why a value cannot be written as a type. -/
inductive EncodeCause where
  | unknownVariant (name : String)
  | wrongLength (expected actual : Nat)
  | wrongShape (shape : Shape)
  | outOfRange (n : Int)
deriving DecidableEq

/-- A cause and the positions that lead to it, the innermost first. -/
structure EncodeError where
  path : List Nat
  cause : EncodeCause
deriving DecidableEq

namespace EncodeError

def ofCause (cause : EncodeCause) : EncodeError :=
  ⟨[], cause⟩

/-- The same complaint seen from outside the item at a position. -/
def under (position : Nat) (e : EncodeError) : EncodeError :=
  { e with path := e.path ++ [position] }

end EncodeError

/-- Encodes a number of some width. -/
def encodeUnsigned (width : Nat) (n : Int) : Except EncodeError Bytes :=
  if 0 ≤ n ∧ n < Bytes.bound width then .ok (Bytes.ofNat width n.toNat)
  else .error (.ofCause (.outOfRange n))

/-- Encodes a number of some width that may be negative, in two's complement. -/
def encodeSigned (width : Nat) (n : Int) : Except EncodeError Bytes :=
  if -(Bytes.bound width) ≤ 2 * n ∧ 2 * n < Bytes.bound width then
    .ok (Bytes.ofNat width (n % Bytes.bound width).toNat)
  else .error (.ofCause (.outOfRange n))

/-- Encodes a number of at most some width in its compact form. -/
def encodeCompact (width : Nat) (n : Int) : Except EncodeError Bytes :=
  if 0 ≤ n ∧ n < Bytes.bound width then .ok (Compact.encode n.toNat)
  else .error (.ofCause (.outOfRange n))

/-- Writes a number or, of anything else, the only item that is in it. -/
def encodeNumber (write : Int → Except EncodeError Bytes) : Value → Except EncodeError Bytes
  | .unsigned n => write n.toNat
  | .signed n => write n.toInt
  | .composite _ [.unsigned n] => write n.toNat
  | .composite _ [.signed n] => write n.toInt
  | v => .error (.ofCause (.wrongShape v.shape))

/-- Writes a number of more than 128 bits. -/
def encodeWide (isSigned : Bool) (width : Nat) : Value → Except EncodeError Bytes
  | .wide s bytes =>
    if s = isSigned ∧ bytes.length = width then .ok bytes else .error (.ofCause (.wrongShape .number))
  | v => .error (.ofCause (.wrongShape v.shape))

/-- Encodes items in order with the same encoder, counting positions from `position` on. -/
def encodeItems (encode : Value → Except EncodeError Bytes) :
    (position : Nat) → List Value → Except EncodeError Bytes
  | _, [] => .ok []
  | position, v :: rest => do
    let bytes ← (encode v).mapError (·.under position)
    let more ← encodeItems encode (position + 1) rest
    return bytes ++ more

mutual

/-- Encodes a value as a type. -/
def Ty.encode : Ty → Value → Except EncodeError Bytes
  | .bool, v =>
    match v with
    | .bool b => .ok [if b then 1 else 0]
    | .composite _ [.bool b] => .ok [if b then 1 else 0]
    | v => .error (.ofCause (.wrongShape v.shape))
  | .text, v =>
    match v with
    | .text s => .ok (encodeBytes (Bytes.ofString s))
    | .composite _ [.text s] => .ok (encodeBytes (Bytes.ofString s))
    | v => .error (.ofCause (.wrongShape v.shape))
  | .unsigned width, v =>
    if width ≤ 16 then encodeNumber (encodeUnsigned width) v else encodeWide false width v
  | .signed width, v => if width ≤ 16 then encodeNumber (encodeSigned width) v else encodeWide true width v
  | .compact width, v =>
    if width ≤ 16 then encodeNumber (encodeCompact width) v else .error (.ofCause (.wrongShape v.shape))
  | .sequence item, v =>
    match v with
    | .composite _ items => do
      let bytes ← encodeItems item.encode 0 items
      return Compact.encode items.length ++ bytes
    | v => .error (.ofCause (.wrongShape v.shape))
  | .array length item, v =>
    match v with
    | .composite _ items =>
      if items.length = length then encodeItems item.encode 0 items
      else .error (.ofCause (.wrongShape v.shape))
    | v => .error (.ofCause (.wrongShape v.shape))
  | .composite _ types, v =>
    match v with
    | .composite _ items =>
      if items.length = types.length then types.encode 0 items
      else .error (.ofCause (.wrongLength types.length items.length))
    | v => .error (.ofCause (.wrongShape v.shape))
  | .enumeration cases, v =>
    match v with
    | .variant name _ items => cases.encode name items
    | v => .error (.ofCause (.wrongShape v.shape))

/-- Encodes items as types, one after another, counting positions from `position` on. -/
def Types.encode : Types → (position : Nat) → List Value → Except EncodeError Bytes
  | .nil, _, _ => .ok []
  | .cons _ _, _, [] => .ok []
  | .cons head tail, position, v :: rest => do
    let bytes ← (head.encode v).mapError (·.under position)
    let more ← tail.encode (position + 1) rest
    return bytes ++ more

/-- Encodes a variant as the first case of its name. -/
def Cases.encode : Cases → (name : String) → List Value → Except EncodeError Bytes
  | .nil, name, _ => .error (.ofCause (.unknownVariant name))
  | .cons n index _ types rest, name, items =>
    if n = name then
      if items.length = types.length then do
        let bytes ← types.encode 0 items
        return index :: bytes
      else .error (.ofCause (.wrongLength types.length items.length))
    else rest.encode name items

end

/-- Encodes items as types when there are as many of them. -/
def Types.encodeAll (types : Types) (items : List Value) : Except EncodeError Bytes :=
  if items.length = types.length then types.encode 0 items
  else .error (.ofCause (.wrongLength types.length items.length))

/-- Reads `count` values with the same reader. -/
def decodeItems (decode : Bytes → Option (Value × Bytes)) :
    (count : Nat) → Bytes → Option (List Value × Bytes)
  | 0, bytes => some ([], bytes)
  | count + 1, bytes => do
    let (v, bytes) ← decode bytes
    let (rest, bytes) ← decodeItems decode count bytes
    return (v :: rest, bytes)

/-- The number that bytes stand for in two's complement. -/
def signedOf (bytes : Bytes) : Int :=
  let n := Bytes.toNat bytes
  if 2 * n < Bytes.bound bytes.length then n else n - Bytes.bound bytes.length

/-- The value of a number that is not negative. -/
def Value.ofUnsigned (bytes : Bytes) : Value :=
  if bytes.length ≤ 16 then .unsigned (.ofNat 128 (Bytes.toNat bytes)) else .wide false bytes

/-- The value of a number that may be negative. -/
def Value.ofSigned (bytes : Bytes) : Value :=
  if bytes.length ≤ 16 then .signed (.ofInt 128 (signedOf bytes)) else .wide true bytes

mutual

/-- Reads a value of a type at the start of a byte string, and what follows it. -/
def Ty.decode : Ty → Bytes → Option (Value × Bytes)
  | .bool, bytes =>
    match bytes with
    | 0 :: rest => some (.bool false, rest)
    | 1 :: rest => some (.bool true, rest)
    | _ => none
  | .text, bytes => do
    let (body, rest) ← decodeBytes bytes
    let s ← Bytes.toString? body
    return (.text s, rest)
  | .unsigned width, bytes => do
    let (body, rest) ← Bytes.split? width bytes
    return (.ofUnsigned body, rest)
  | .signed width, bytes => do
    let (body, rest) ← Bytes.split? width bytes
    return (.ofSigned body, rest)
  | .compact width, bytes => do
    let (n, rest) ← Compact.decodeBelow (Bytes.bound width) bytes
    if width ≤ 16 then return (.unsigned (.ofNat 128 n), rest) else none
  | .sequence item, bytes => do
    let (count, rest) ← Compact.decodeBelow (Bytes.bound 4) bytes
    let (items, rest) ← decodeItems item.decode count rest
    return (.composite [] items, rest)
  | .array length item, bytes => do
    let (items, rest) ← decodeItems item.decode length bytes
    return (.composite [] items, rest)
  | .composite labels types, bytes => do
    let (items, rest) ← types.decode bytes
    return (.composite labels items, rest)
  | .enumeration cases, bytes =>
    match bytes with
    | [] => none
    | index :: rest => cases.decode index rest

/-- Reads values of types, one after another. -/
def Types.decode : Types → Bytes → Option (List Value × Bytes)
  | .nil, bytes => some ([], bytes)
  | .cons head tail, bytes => do
    let (v, bytes) ← head.decode bytes
    let (rest, bytes) ← tail.decode bytes
    return (v :: rest, bytes)

/-- Reads the items of the first case of a byte. -/
def Cases.decode : Cases → (index : UInt8) → Bytes → Option (Value × Bytes)
  | .nil, _, _ => none
  | .cons name i labels types rest, index, bytes =>
    if i = index then do
      let (items, bytes) ← types.decode bytes
      return (.variant name labels items, bytes)
    else rest.decode index bytes

end

namespace EncodeCause

/-- The text of a complaint; types are not named in it. -/
def message : EncodeCause → String
  | unknownVariant name => "Variant " ++ name ++ " does not exist on type with ID N"
  | wrongLength expected actual =>
    "Cannot encode to type; expected length " ++ toString expected ++ " but got length " ++
      toString actual
  | wrongShape shape => "Cannot encode " ++ shape.name ++ " into type with ID N"
  | outOfRange n => "Number " ++ toString n ++ " is out of range for target type"

end EncodeCause

/-- The text of an error: the positions in brackets with points between them, and the cause. -/
def EncodeError.message (e : EncodeError) : String :=
  "Error at " ++ String.intercalate "." (e.path.map fun position => "[" ++ toString position ++ "]") ++
    ": " ++ e.cause.message

end Payout.Scale
