import Payout.Proofs.Outcome
import Payout.Proofs.Scale.Compact
import Payout.Scale.Ty

/-!
# Values of a type

Which values are of a type, in the form in which they are read. Such a value is encoded without an error, and
is read back from the front of any bytes that start with its encoding.
-/
namespace Payout.Scale

mutual

/-- A byte stands for at most one case. -/
def Ty.WellFormed : Ty → Prop
  | .sequence item => item.WellFormed
  | .array _ item => item.WellFormed
  | .composite _ items => items.WellFormed
  | .enumeration cases => cases.WellFormed
  | _ => True

def Types.WellFormed : Types → Prop
  | .nil => True
  | .cons head tail => head.WellFormed ∧ tail.WellFormed

def Cases.WellFormed : Cases → Prop
  | .nil => True
  | .cons _ index _ items rest =>
    rest.hasIndex index = false ∧ items.WellFormed ∧ rest.WellFormed

end

theorem Types.wellFormed_ofList {types : List Ty} :
    (Types.ofList types).WellFormed ↔ ∀ t ∈ types, t.WellFormed := by
  induction types with
  | nil => simp [Types.ofList, Types.WellFormed]
  | cons t rest ih => simp [Types.ofList, Types.WellFormed, ih]

theorem Cases.hasIndex_ofList {cases : List Case} {index : UInt8} :
    (Cases.ofList cases).hasIndex index = true ↔ index ∈ cases.map Case.index := by
  induction cases with
  | nil => simp [Cases.ofList, Cases.hasIndex]
  | cons c rest ih =>
    rw [Cases.ofList, Cases.hasIndex, Bool.or_eq_true, decide_eq_true_eq, ih, List.map_cons, List.mem_cons]
    exact or_congr_left eq_comm

theorem Cases.wellFormed_ofList {cases : List Case} :
    (Cases.ofList cases).WellFormed ↔
      (cases.map Case.index).Nodup ∧ ∀ c ∈ cases, ∀ t ∈ c.items, t.WellFormed := by
  induction cases with
  | nil => simp [Cases.ofList, Cases.WellFormed]
  | cons c rest ih =>
    have hindex : (Cases.ofList rest).hasIndex c.index = false ↔ c.index ∉ rest.map Case.index := by
      rw [← Cases.hasIndex_ofList, Bool.not_eq_true]
    simp only [Cases.ofList, Cases.WellFormed, hindex, Types.wellFormed_ofList, ih, List.map_cons,
      List.nodup_cons, List.forall_mem_cons]
    constructor
    · intro h
      obtain ⟨hnew, hitems, hrest, hall⟩ := h
      exact ⟨⟨hnew, hrest⟩, hitems, hall⟩
    · intro h
      obtain ⟨⟨hnew, hrest⟩, hitems, hall⟩ := h
      exact ⟨hnew, hitems, hrest, hall⟩

mutual

/-- The value is of the type. -/
def Ty.Holds : Ty → Value → Prop
  | .bool, .bool _ => True
  | .text, .text s => (Bytes.ofString s).length < Bytes.bound 4
  | .unsigned width, .unsigned n => width ≤ 16 ∧ n.toNat < Bytes.bound width
  | .unsigned width, .wide false bytes => 16 < width ∧ bytes.length = width
  | .signed width, .signed n =>
    width ≤ 16 ∧ -(Bytes.bound width) ≤ 2 * n.toInt ∧ 2 * n.toInt < Bytes.bound width
  | .signed width, .wide true bytes => 16 < width ∧ bytes.length = width
  | .compact width, .unsigned n => width ≤ 16 ∧ n.toNat < Bytes.bound width
  | .sequence item, .composite labels items =>
    labels = [] ∧ items.length < Bytes.bound 4 ∧ ∀ v ∈ items, item.Holds v
  | .array length item, .composite labels items =>
    labels = [] ∧ items.length = length ∧ ∀ v ∈ items, item.Holds v
  | .composite labels types, .composite names items => names = labels ∧ types.Holds items
  | .enumeration cases, .variant name labels items => cases.Holds name labels items
  | _, _ => False

/-- The values are of the types, one after another. -/
def Types.Holds : Types → List Value → Prop
  | .nil, [] => True
  | .cons head tail, v :: rest => head.Holds v ∧ tail.Holds rest
  | _, _ => False

/-- The items are those of the first case of the name. -/
def Cases.Holds : Cases → (name : String) → (labels : List String) → List Value → Prop
  | .nil, _, _, _ => False
  | .cons n _ names types rest, name, labels, items =>
    if n = name then labels = names ∧ types.Holds items else rest.Holds name labels items

end

/-- A value is written without an error, and read back from the front of any bytes that start with what is
written. -/
def RoundTrips (encode : Value → Except EncodeError Bytes) (decode : Bytes → Option (Value × Bytes))
    (v : Value) : Prop :=
  ∃ bytes, encode v = .ok bytes ∧ ∀ rest, decode (bytes ++ rest) = some (v, rest)

theorem Types.Holds.length {types : Types} {items : List Value} (h : types.Holds items) :
    items.length = types.length := by
  induction items generalizing types with
  | nil => cases types <;> simp_all [Types.Holds, Types.length]
  | cons v rest ih =>
    cases types with
    | nil => simp [Types.Holds] at h
    | cons head tail =>
      simp only [Types.Holds] at h
      simp [Types.length, ih h.2]

/-- Items that each can be written and read back can be so one after another. -/
theorem items_roundTrip {encode : Value → Except EncodeError Bytes}
    {decode : Bytes → Option (Value × Bytes)} {items : List Value}
    (h : ∀ v ∈ items, RoundTrips encode decode v) (position : Nat) :
    ∃ bytes, encodeItems encode position items = .ok bytes ∧
      ∀ rest, decodeItems decode items.length (bytes ++ rest) = some (items, rest) := by
  induction items generalizing position with
  | nil => exact ⟨[], rfl, fun rest => rfl⟩
  | cons v items ih =>
    obtain ⟨front, hfront, hread⟩ := h v (by simp)
    obtain ⟨back, hback, hreads⟩ := ih (fun w hw => h w (by simp [hw])) (position + 1)
    refine ⟨front ++ back, ?_, fun rest => ?_⟩
    · simp only [encodeItems, hfront, hback]
      rfl
    · simp only [List.length_cons, decodeItems, List.append_assoc, hread, hreads,
        Option.bind_eq_bind, Option.bind_some]
      rfl

/-- A value that is written as its bytes, of which there are always as many, is read back from these. -/
theorem fixed_roundTrip {width : Nat} {encode : Value → Except EncodeError Bytes} {value : Bytes → Value} {body : Bytes}
    (hlength : body.length = width) (hencode : encode (value body) = .ok body) :
    RoundTrips encode (fun bytes => do
      let (front, rest) ← Bytes.split? width bytes
      return (value front, rest)) (value body) := by
  refine ⟨body, hencode, fun rest => ?_⟩
  simp only [Bytes.split?_eq_some rest hlength, Option.bind_eq_bind, Option.bind_some]
  rfl

theorem unsigned_roundTrip {width : Nat} {n : BitVec 128} (hw : width ≤ 16) (h : n.toNat < Bytes.bound width) :
    RoundTrips (Ty.unsigned width).encode (Ty.unsigned width).decode (.unsigned n) := by
  have hrange : (0 : Int) ≤ n.toNat ∧ (n.toNat : Int) < Bytes.bound width := by omega
  have hlength := Bytes.length_ofNat width n.toNat
  have hvalue : Value.ofUnsigned (Bytes.ofNat width n.toNat) = .unsigned n := by
    rw [Value.ofUnsigned, if_pos (Nat.le_trans (Nat.le_of_eq hlength) hw), Bytes.toNat_ofNat h, BitVec.ofNat_toNat,
      BitVec.setWidth_eq]
  rw [← hvalue]
  refine fixed_roundTrip hlength ?_
  simp only [hvalue, Ty.encode, if_pos hw, encodeNumber, encodeUnsigned, if_pos hrange, Int.toNat_natCast]

theorem signedOf_ofNat {width : Nat} {n : Int} (h : -(Bytes.bound width) ≤ 2 * n ∧ 2 * n < Bytes.bound width) :
    signedOf (Bytes.ofNat width (n % Bytes.bound width).toNat) = n := by
  have hpos := Bytes.bound_pos width
  have hmod : 0 ≤ n % Bytes.bound width := Int.emod_nonneg _ (by omega)
  have hlt : n % Bytes.bound width < Bytes.bound width := Int.emod_lt_of_pos _ (by omega)
  have hfits : (n % Bytes.bound width).toNat < Bytes.bound width := by omega
  simp only [signedOf, Bytes.toNat_ofNat hfits, Bytes.length_ofNat]
  rcases Int.lt_or_le n 0 with hn | hn
  · have hself : n % Bytes.bound width = n + Bytes.bound width := by
      rw [← Int.add_emod_right, Int.emod_eq_of_lt (by omega) (by omega)]
    rw [hself]
    split <;> omega
  · rw [Int.emod_eq_of_lt hn (by omega)]
    split <;> omega

theorem signed_roundTrip {width : Nat} {n : BitVec 128} (hw : width ≤ 16)
    (h : -(Bytes.bound width) ≤ 2 * n.toInt ∧ 2 * n.toInt < Bytes.bound width) :
    RoundTrips (Ty.signed width).encode (Ty.signed width).decode (.signed n) := by
  have hlength := Bytes.length_ofNat width (n.toInt % Bytes.bound width).toNat
  have hvalue : Value.ofSigned (Bytes.ofNat width (n.toInt % Bytes.bound width).toNat) = .signed n := by
    rw [Value.ofSigned, if_pos (Nat.le_trans (Nat.le_of_eq hlength) hw), signedOf_ofNat h, BitVec.ofInt_toInt]
  rw [← hvalue]
  refine fixed_roundTrip hlength ?_
  simp only [hvalue, Ty.encode, if_pos hw, encodeNumber, encodeSigned, if_pos h]

/-- A number that is kept as its bytes is written as these. -/
theorem encodeWide_self (isSigned : Bool) (bytes : Bytes) :
    encodeWide isSigned bytes.length (.wide isSigned bytes) = .ok bytes :=
  if_pos ⟨rfl, rfl⟩

theorem wideUnsigned_roundTrip {bytes : Bytes} (h : 16 < bytes.length) :
    RoundTrips (Ty.unsigned bytes.length).encode (Ty.unsigned bytes.length).decode (.wide false bytes) := by
  have hvalue : Value.ofUnsigned bytes = .wide false bytes := if_neg (Nat.not_le.mpr h)
  rw [← hvalue]
  refine fixed_roundTrip rfl ?_
  simp only [hvalue, Ty.encode, if_neg (Nat.not_le.mpr h), encodeWide_self]

theorem wideSigned_roundTrip {bytes : Bytes} (h : 16 < bytes.length) :
    RoundTrips (Ty.signed bytes.length).encode (Ty.signed bytes.length).decode (.wide true bytes) := by
  have hvalue : Value.ofSigned bytes = .wide true bytes := if_neg (Nat.not_le.mpr h)
  rw [← hvalue]
  refine fixed_roundTrip rfl ?_
  simp only [hvalue, Ty.encode, if_neg (Nat.not_le.mpr h), encodeWide_self]

theorem compact_roundTrip {width : Nat} {n : BitVec 128} (hw : width ≤ 16) (h : n.toNat < Bytes.bound width) :
    RoundTrips (Ty.compact width).encode (Ty.compact width).decode (.unsigned n) := by
  have hrange : (0 : Int) ≤ n.toNat ∧ (n.toNat : Int) < Bytes.bound width := by omega
  refine ⟨Compact.encode n.toNat, ?_, fun rest => ?_⟩
  · simp only [Ty.encode, if_pos hw, encodeNumber, encodeCompact, if_pos hrange, Int.toNat_natCast]
  · have hread := Compact.decodeBelow_encode h (Bytes.bound_le (Nat.le_trans hw (by decide))) rest
    simp only [Ty.decode, hread, if_pos hw, BitVec.ofNat_toNat, BitVec.setWidth_eq, Option.bind_eq_bind,
      Option.bind_some]
    rfl

theorem text_roundTrip {s : String} (h : (Bytes.ofString s).length < Bytes.bound 4) :
    RoundTrips Ty.text.encode Ty.text.decode (.text s) := by
  refine ⟨encodeBytes (Bytes.ofString s), by simp only [Ty.encode], fun rest => ?_⟩
  simp only [Ty.decode, decodeBytes_encodeBytes h, Bytes.toString?_ofString, Option.bind_eq_bind,
    Option.bind_some]
  rfl

theorem bool_roundTrip (b : Bool) : RoundTrips Ty.bool.encode Ty.bool.decode (.bool b) := by
  cases b with
  | false => exact ⟨[0], by simp [Ty.encode], fun rest => by simp [Ty.decode]⟩
  | true => exact ⟨[1], by simp [Ty.encode], fun rest => by simp [Ty.decode]⟩

theorem sequence_roundTrip {item : Ty} {items : List Value} (hlength : items.length < Bytes.bound 4)
    (h : ∀ v ∈ items, RoundTrips item.encode item.decode v) :
    RoundTrips (Ty.sequence item).encode (Ty.sequence item).decode (.composite [] items) := by
  obtain ⟨bytes, hbytes, hread⟩ := items_roundTrip h 0
  refine ⟨Compact.encode items.length ++ bytes, ?_, fun rest => ?_⟩
  · simp only [Ty.encode, hbytes]
    rfl
  · have hcount := Compact.decodeBelow_encode hlength (Bytes.bound_le (by decide)) (bytes ++ rest)
    simp only [Ty.decode, List.append_assoc, hcount, hread, Option.bind_eq_bind, Option.bind_some]
    rfl

theorem array_roundTrip {item : Ty} {items : List Value}
    (h : ∀ v ∈ items, RoundTrips item.encode item.decode v) :
    RoundTrips (Ty.array items.length item).encode (Ty.array items.length item).decode
      (.composite [] items) := by
  obtain ⟨bytes, hbytes, hread⟩ := items_roundTrip h 0
  refine ⟨bytes, ?_, fun rest => ?_⟩
  · simp only [Ty.encode, if_true, hbytes]
  · simp only [Ty.decode, hread, Option.bind_eq_bind, Option.bind_some]
    rfl

mutual

/-- A value of a well-formed type is encoded, and read back. -/
theorem Ty.roundTrips : (t : Ty) → t.WellFormed → (v : Value) → t.Holds v →
    RoundTrips t.encode t.decode v
  | .bool, _, v, h => by
    cases v with
    | bool b => exact bool_roundTrip b
    | _ => simp [Ty.Holds] at h
  | .text, _, v, h => by
    cases v with
    | text s => exact text_roundTrip (by simpa only [Ty.Holds] using h)
    | _ => simp [Ty.Holds] at h
  | .unsigned width, _, v, h => by
    cases v with
    | unsigned n =>
      simp only [Ty.Holds] at h
      exact unsigned_roundTrip h.1 h.2
    | wide isSigned bytes =>
      cases isSigned with
      | false =>
        simp only [Ty.Holds] at h
        obtain ⟨hwide, rfl⟩ := h
        exact wideUnsigned_roundTrip hwide
      | true => simp [Ty.Holds] at h
    | _ => simp [Ty.Holds] at h
  | .signed width, _, v, h => by
    cases v with
    | signed n =>
      simp only [Ty.Holds] at h
      exact signed_roundTrip h.1 h.2
    | wide isSigned bytes =>
      cases isSigned with
      | false => simp [Ty.Holds] at h
      | true =>
        simp only [Ty.Holds] at h
        obtain ⟨hwide, rfl⟩ := h
        exact wideSigned_roundTrip hwide
    | _ => simp [Ty.Holds] at h
  | .compact width, _, v, h => by
    cases v with
    | unsigned n =>
      simp only [Ty.Holds] at h
      exact compact_roundTrip h.1 h.2
    | _ => simp [Ty.Holds] at h
  | .sequence item, hwf, v, h => by
    cases v with
    | composite labels items =>
      simp only [Ty.Holds] at h
      obtain ⟨rfl, hlength, hitems⟩ := h
      exact sequence_roundTrip hlength fun w hw => Ty.roundTrips item hwf w (hitems w hw)
    | _ => simp [Ty.Holds] at h
  | .array length item, hwf, v, h => by
    cases v with
    | composite labels items =>
      simp only [Ty.Holds] at h
      obtain ⟨rfl, rfl, hitems⟩ := h
      exact array_roundTrip fun w hw => Ty.roundTrips item hwf w (hitems w hw)
    | _ => simp [Ty.Holds] at h
  | .composite labels types, hwf, v, h => by
    cases v with
    | composite names items =>
      simp only [Ty.Holds] at h
      obtain ⟨rfl, hitems⟩ := h
      obtain ⟨bytes, hbytes, hread⟩ := Types.roundTrips types hwf items hitems 0
      refine ⟨bytes, ?_, fun rest => ?_⟩
      · simp only [Ty.encode, if_pos hitems.length, hbytes]
      · simp only [Ty.decode, hread, Option.bind_eq_bind, Option.bind_some]
        rfl
    | _ => simp [Ty.Holds] at h
  | .enumeration cases, hwf, v, h => by
    cases v with
    | variant name labels items =>
      simp only [Ty.Holds] at h
      obtain ⟨index, bytes, hbytes, -, hread⟩ := Cases.roundTrips cases hwf name labels items h
      refine ⟨index :: bytes, ?_, fun rest => ?_⟩
      · simp only [Ty.encode, hbytes]
      · simp only [List.cons_append, Ty.decode, hread]
    | _ => simp [Ty.Holds] at h

theorem Types.roundTrips : (types : Types) → types.WellFormed → (items : List Value) →
    types.Holds items → (position : Nat) →
    ∃ bytes, types.encode position items = .ok bytes ∧
      ∀ rest, types.decode (bytes ++ rest) = some (items, rest)
  | .nil, _, items, h, position => by
    cases items with
    | nil => exact ⟨[], by simp only [Types.encode], fun rest => by simp [Types.decode]⟩
    | cons v rest => simp [Types.Holds] at h
  | .cons head tail, hwf, items, h, position => by
    cases items with
    | nil => simp [Types.Holds] at h
    | cons v items =>
      simp only [Types.Holds] at h
      obtain ⟨front, hfront, hread⟩ := Ty.roundTrips head hwf.1 v h.1
      obtain ⟨back, hback, hreads⟩ := Types.roundTrips tail hwf.2 items h.2 (position + 1)
      refine ⟨front ++ back, ?_, fun rest => ?_⟩
      · simp only [Types.encode, hfront, hback]
        rfl
      · simp only [Types.decode, List.append_assoc, hread, hreads, Option.bind_eq_bind,
          Option.bind_some]
        rfl

theorem Cases.roundTrips : (cases : Cases) → cases.WellFormed → (name : String) →
    (labels : List String) → (items : List Value) → cases.Holds name labels items →
    ∃ index bytes, cases.encode name items = .ok (index :: bytes) ∧ cases.hasIndex index = true ∧
      ∀ rest, cases.decode index (bytes ++ rest) = some (.variant name labels items, rest)
  | .nil, _, name, labels, items, h => by simp [Cases.Holds] at h
  | .cons first index names types others, hwf, name, labels, items, h => by
    simp only [Cases.Holds] at h
    split at h
    case isTrue hname =>
      obtain ⟨rfl, hitems⟩ := h
      obtain ⟨bytes, hbytes, hread⟩ := Types.roundTrips types hwf.2.1 items hitems 0
      refine ⟨index, bytes, ?_, by simp [Cases.hasIndex], fun rest => ?_⟩
      · simp only [Cases.encode, if_pos hname, if_pos hitems.length, hbytes]
        rfl
      · simp only [Cases.decode, if_true, hread, hname, Option.bind_eq_bind, Option.bind_some]
        rfl
    case isFalse hname =>
      obtain ⟨other, bytes, hbytes, hindex, hread⟩ :=
        Cases.roundTrips others hwf.2.2 name labels items h
      have hne : index ≠ other := by
        intro h
        subst h
        rw [hwf.1] at hindex
        cases hindex
      refine ⟨other, bytes, ?_, ?_, fun rest => ?_⟩
      · simp only [Cases.encode, if_neg hname, hbytes]
      · simp only [Cases.hasIndex, hindex, Bool.or_true]
      · simp only [Cases.decode, if_neg hne, hread]

end

/-- A single item is written as it is on its own. -/
theorem Types.encodeAll_singleton (t : Ty) (v : Value) :
    (Types.ofList [t]).encodeAll [v] = (t.encode v).mapError (·.under 0) := by
  simp only [Types.encodeAll, Types.ofList, Types.length, List.length_singleton, if_true, Types.encode]
  cases t.encode v with
  | error e => rfl
  | ok bytes => exact congrArg Except.ok (List.append_nil bytes)

theorem Types.encodeAll_singleton_eq_ok_iff {t : Ty} {v : Value} {bytes : Bytes} :
    (Types.ofList [t]).encodeAll [v] = .ok bytes ↔ t.encode v = .ok bytes := by
  rw [Types.encodeAll_singleton, Outcome.mapError_eq_ok_iff]

/-- A variant is written as its byte and its items, as the first case of its name takes them. -/
theorem Cases.encode_of_find? {name : String} {index : UInt8} {types : Types} :
    (cases : Cases) → cases.find? name = some (index, types) → (items : List Value) →
    cases.encode name items = (types.encodeAll items).map (index :: ·)
  | .nil, h, items => by cases h
  | .cons first byte labels found others, h, items => by
    by_cases hname : first = name
    · simp only [Cases.find?, if_pos hname, Option.some.injEq, Prod.mk.injEq] at h
      obtain ⟨rfl, rfl⟩ := h
      simp only [Cases.encode, if_pos hname, Types.encodeAll]
      split <;> rfl
    · simp only [Cases.find?, if_neg hname] at h
      simp only [Cases.encode, if_neg hname, Cases.encode_of_find? others h]

theorem Cases.encode_of_find?_eq_none {name : String} : (cases : Cases) → cases.find? name = none →
    (items : List Value) → cases.encode name items = .error (.ofCause (.unknownVariant name))
  | .nil, _, items => by simp only [Cases.encode]
  | .cons first byte labels found others, h, items => by
    by_cases hname : first = name
    · simp only [Cases.find?, if_pos hname] at h
      cases h
    · simp only [Cases.find?, if_neg hname] at h
      simp only [Cases.encode, if_neg hname, Cases.encode_of_find?_eq_none others h]

/-- A variant can be written when there is a case of its name that takes the items. -/
theorem Cases.encode_eq_ok_iff {cases : Cases} {name : String} {items : List Value} {bytes : Bytes} :
    cases.encode name items = .ok bytes ↔ ∃ index types data, cases.find? name = some (index, types) ∧
      types.encodeAll items = .ok data ∧ bytes = index :: data := by
  cases hfind : cases.find? name with
  | none => simp [Cases.encode_of_find?_eq_none cases hfind]
  | some found =>
    obtain ⟨index, types⟩ := found
    rw [Cases.encode_of_find? cases hfind, Outcome.map_eq_ok_iff]
    constructor
    · intro h
      obtain ⟨data, hdata, rfl⟩ := h
      exact ⟨index, types, data, rfl, hdata, rfl⟩
    · intro h
      obtain ⟨_, _, data, hfound, hdata, rfl⟩ := h
      cases hfound
      exact ⟨data, hdata, rfl⟩

end Payout.Scale
