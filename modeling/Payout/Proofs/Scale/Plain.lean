import Payout.Proofs.Outcome
import Payout.Proofs.Scale.Typing

/-!
# Plain values

The encoder takes more values than are of a type: an item in brackets for the item itself, any labels, and
numbers of either kind. Plain values leave it no such choice, so that a plain value that can be encoded is of
the type, as long as the type has neither labels nor signed numbers.
-/
namespace Payout.Scale

/-- The value is a number, a text or a truth value. -/
def Value.IsScalar : Value → Prop
  | .unsigned _ | .signed _ | .wide _ _ | .bool _ | .text _ => True
  | _ => False

/-- The value is without labels, numbers that are signed or have more than 128 bits, and brackets around a single
scalar, and no part of it is too long. -/
inductive Value.Plain : Value → Prop
  | unsigned (n : BitVec 128) : Plain (.unsigned n)
  | bool (b : Bool) : Plain (.bool b)
  | text {s : String} (hlength : (Bytes.ofString s).length < Bytes.bound 4) : Plain (.text s)
  | tuple {items : List Value} (hlength : items.length < Bytes.bound 4)
      (hsingle : ∀ v, items = [v] → ¬ v.IsScalar) (hitems : ∀ v ∈ items, Plain v) :
    Plain (.tuple items)
  | call {name : String} {items : List Value} (hitems : ∀ v ∈ items, Plain v) : Plain (.call name items)

mutual

/-- The type has neither labels nor signed numbers. -/
def Ty.Unlabelled : Ty → Prop
  | .signed _ => False
  | .sequence item => item.Unlabelled
  | .array _ item => item.Unlabelled
  | .composite labels items => labels = [] ∧ items.Unlabelled
  | .enumeration cases => cases.Unlabelled
  | _ => True

def Types.Unlabelled : Types → Prop
  | .nil => True
  | .cons head tail => head.Unlabelled ∧ tail.Unlabelled

def Cases.Unlabelled : Cases → Prop
  | .nil => True
  | .cons _ _ labels items rest => labels = [] ∧ items.Unlabelled ∧ rest.Unlabelled

end

theorem Types.unlabelled_ofList {types : List Ty} :
    (Types.ofList types).Unlabelled ↔ ∀ t ∈ types, t.Unlabelled := by
  induction types with
  | nil => simp [Types.ofList, Types.Unlabelled]
  | cons t rest ih => simp [Types.ofList, Types.Unlabelled, ih]

theorem Cases.unlabelled_ofList {cases : List Case} :
    (Cases.ofList cases).Unlabelled ↔ ∀ c ∈ cases, ∀ t ∈ c.items, t.Unlabelled := by
  induction cases with
  | nil => simp [Cases.ofList, Cases.Unlabelled]
  | cons c rest ih => simp [Cases.ofList, Cases.Unlabelled, Types.unlabelled_ofList, ih]

/-- The type is well-formed and unlabelled: what is written for a plain value is read back as that value. -/
def Ty.Regular (t : Ty) : Prop :=
  t.WellFormed ∧ t.Unlabelled

def Cases.Regular (cases : Cases) : Prop :=
  cases.WellFormed ∧ cases.Unlabelled

theorem Cases.regular_ofList {cases : List Case} (hindex : (cases.map Case.index).Nodup)
    (hitems : ∀ c ∈ cases, ∀ t ∈ c.items, t.Regular) : (Cases.ofList cases).Regular := by
  constructor
  · exact Cases.wellFormed_ofList.mpr ⟨hindex, fun c hc t ht => (hitems c hc t ht).1⟩
  · exact Cases.unlabelled_ofList.mpr fun c hc t ht => (hitems c hc t ht).2

/-- Only an unsigned number is a plain value that is written as a number. -/
theorem Value.Plain.encode_number {write : Int → Except EncodeError Bytes} {v : Value} {bytes : Bytes}
    (hv : v.Plain) (h : encodeNumber write v = .ok bytes) :
    ∃ n : BitVec 128, v = .unsigned n ∧ write n.toNat = .ok bytes := by
  cases hv with
  | unsigned n => exact ⟨n, rfl, h⟩
  | @tuple items _ hsingle _ =>
    simp only [Value.tuple, Scale.encodeNumber] at h
    split at h
    · simp_all
    · simp_all
    · simp_all [Value.IsScalar]
    · simp_all [Value.IsScalar]
    · cases h
  | _ => cases h

/-- No plain value is a number of more than 128 bits. -/
theorem Value.Plain.encodeWide_ne_ok {v : Value} (hv : v.Plain) (isSigned : Bool) (width : Nat) (bytes : Bytes) :
    encodeWide isSigned width v ≠ .ok bytes := by
  intro h
  cases hv with
  | _ => cases h

theorem Value.Plain.encode_bool {v : Value} {bytes : Bytes} (hv : v.Plain)
    (h : Ty.bool.encode v = .ok bytes) : ∃ b, v = .bool b := by
  cases hv with
  | bool b => exact ⟨b, rfl⟩
  | @tuple items _ hsingle _ =>
    simp only [Value.tuple, Ty.encode] at h
    split at h
    · simp_all
    · simp_all [Value.IsScalar]
    · cases h
  | _ => cases h

theorem Value.Plain.encode_text {v : Value} {bytes : Bytes} (hv : v.Plain)
    (h : Ty.text.encode v = .ok bytes) :
    ∃ s, v = .text s ∧ (Bytes.ofString s).length < Bytes.bound 4 := by
  cases hv with
  | text hlength => exact ⟨_, rfl, hlength⟩
  | @tuple items _ hsingle _ =>
    simp only [Value.tuple, Ty.encode] at h
    split at h
    · simp_all
    · simp_all [Value.IsScalar]
    · cases h
  | _ => cases h

theorem lt_of_encodeUnsigned {width : Nat} {n : Nat} {bytes : Bytes}
    (h : encodeUnsigned width n = .ok bytes) : n < Bytes.bound width := by
  unfold encodeUnsigned at h
  split at h
  · omega
  · cases h

theorem lt_of_encodeCompact {width : Nat} {n : Nat} {bytes : Bytes}
    (h : encodeCompact width n = .ok bytes) : n < Bytes.bound width := by
  unfold encodeCompact at h
  split at h
  · omega
  · cases h

/-- Items that are written one after another can each be written. -/
theorem exists_encode_of_mem {encode : Value → Except EncodeError Bytes} {items : List Value}
    {position : Nat} {bytes : Bytes} (h : encodeItems encode position items = .ok bytes)
    {v : Value} (hv : v ∈ items) : ∃ part, encode v = .ok part := by
  induction items generalizing position bytes with
  | nil => cases hv
  | cons first rest ih =>
    obtain ⟨part, hpart, h⟩ := Outcome.bind_eq_ok_iff.mp h
    obtain ⟨more, hmore, -⟩ := Outcome.bind_eq_ok_iff.mp h
    rcases List.mem_cons.mp hv with rfl | hv
    · exact ⟨part, Outcome.mapError_eq_ok_iff.mp hpart⟩
    · exact ih hmore hv

mutual

/-- A plain value that can be encoded is of the type. -/
theorem Ty.holds_of_encode : (t : Ty) → t.Unlabelled → {v : Value} → v.Plain → {bytes : Bytes} →
    t.encode v = .ok bytes → t.Holds v
  | .bool, _, v, hv, bytes, h => by
    obtain ⟨b, rfl⟩ := hv.encode_bool h
    simp only [Ty.Holds]
  | .text, _, v, hv, bytes, h => by
    obtain ⟨s, rfl, hlength⟩ := hv.encode_text h
    simpa only [Ty.Holds] using hlength
  | .unsigned width, _, v, hv, bytes, h => by
    simp only [Ty.encode] at h
    split at h
    · obtain ⟨n, rfl, hwrite⟩ := hv.encode_number h
      exact ⟨‹_›, lt_of_encodeUnsigned hwrite⟩
    · exact absurd h (hv.encodeWide_ne_ok _ _ _)
  | .signed width, ht, v, hv, bytes, h => absurd ht (by simp only [Ty.Unlabelled, not_false_eq_true])
  | .compact width, _, v, hv, bytes, h => by
    simp only [Ty.encode] at h
    split at h
    · obtain ⟨n, rfl, hwrite⟩ := hv.encode_number h
      exact ⟨‹_›, lt_of_encodeCompact hwrite⟩
    · cases h
  | .sequence item, ht, v, hv, bytes, h => by
    cases hv with
    | tuple hlength _ hitems =>
      simp only [Value.tuple, Ty.encode] at h
      obtain ⟨body, hbody, -⟩ := Outcome.bind_eq_ok_iff.mp h
      refine ⟨rfl, hlength, fun w hw => ?_⟩
      obtain ⟨part, hpart⟩ := exists_encode_of_mem hbody hw
      exact Ty.holds_of_encode item ht (hitems w hw) hpart
    | _ => cases h
  | .array length item, ht, v, hv, bytes, h => by
    cases hv with
    | tuple _ _ hitems =>
      simp only [Value.tuple, Ty.encode] at h
      split at h
      · rename_i hlength
        refine ⟨rfl, hlength, fun w hw => ?_⟩
        obtain ⟨part, hpart⟩ := exists_encode_of_mem h hw
        exact Ty.holds_of_encode item ht (hitems w hw) hpart
      · cases h
    | _ => cases h
  | .composite labels types, ht, v, hv, bytes, h => by
    cases hv with
    | tuple _ _ hitems =>
      simp only [Value.tuple, Ty.encode] at h
      split at h
      · rename_i hlength
        exact ⟨ht.1.symm, Types.holds_of_encode types ht.2 hitems hlength h⟩
      · cases h
    | _ => cases h
  | .enumeration cases, ht, v, hv, bytes, h => by
    cases hv with
    | call hitems =>
      simp only [Value.call, Ty.encode] at h
      exact Cases.holds_of_encode cases ht hitems h
    | _ => cases h

theorem Types.holds_of_encode : (types : Types) → types.Unlabelled → {items : List Value} →
    (∀ v ∈ items, v.Plain) → items.length = types.length → {position : Nat} → {bytes : Bytes} →
    types.encode position items = .ok bytes → types.Holds items
  | .nil, _, items, _, hlength, position, bytes, _ => by
    obtain rfl := List.length_eq_zero_iff.mp hlength
    simp only [Types.Holds]
  | .cons head tail, ht, items, hitems, hlength, position, bytes, h => by
    cases items with
    | nil => simp [Types.length] at hlength
    | cons v rest =>
      obtain ⟨part, hpart, h⟩ := Outcome.bind_eq_ok_iff.mp h
      obtain ⟨more, hmore, -⟩ := Outcome.bind_eq_ok_iff.mp h
      obtain ⟨hv, hrest⟩ := List.forall_mem_cons.mp hitems
      exact ⟨Ty.holds_of_encode head ht.1 hv (Outcome.mapError_eq_ok_iff.mp hpart),
        Types.holds_of_encode tail ht.2 hrest (Nat.succ.inj hlength) hmore⟩

theorem Cases.holds_of_encode : (cases : Cases) → cases.Unlabelled → {name : String} →
    {items : List Value} → (∀ v ∈ items, v.Plain) → {bytes : Bytes} →
    cases.encode name items = .ok bytes → cases.Holds name [] items
  | .nil, _, name, items, _, bytes, h => by simp [Cases.encode] at h
  | .cons first index labels types others, ht, name, items, hitems, bytes, h => by
    simp only [Cases.encode] at h
    simp only [Cases.Holds]
    split at h
    case isTrue hname =>
      split at h
      case isTrue hlength =>
        obtain ⟨body, hbody, -⟩ := Outcome.bind_eq_ok_iff.mp h
        rw [if_pos hname]
        exact ⟨ht.1.symm, Types.holds_of_encode types ht.2.1 hitems hlength hbody⟩
      case isFalse => cases h
    case isFalse hname =>
      rw [if_neg hname]
      exact Cases.holds_of_encode others ht.2.2 hitems h

end

/-- Whatever can be written for a plain value is read back as that value. -/
theorem Ty.Regular.decode_encode {t : Ty} {v : Value} {bytes : Bytes} (ht : t.Regular) (hv : v.Plain)
    (h : t.encode v = .ok bytes) (rest : Bytes) : t.decode (bytes ++ rest) = some (v, rest) := by
  have hholds := Ty.holds_of_encode t ht.2 hv h
  obtain ⟨written, hwritten, hread⟩ := Ty.roundTrips t ht.1 v hholds
  obtain rfl := Except.ok.inj (h.symm.trans hwritten)
  exact hread rest

end Payout.Scale
