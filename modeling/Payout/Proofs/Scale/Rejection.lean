import Payout.Proofs.Scale.Plain

/-!
# What cannot be written

Items are written in order, so that the first of them that cannot be written decides the error, and no later
item is looked at. Numbers are written as long as the type has room for them.
-/
namespace Payout.Scale

/-- The value can be written as the type. -/
def Ty.Takes (t : Ty) (v : Value) : Prop :=
  ∃ bytes, t.encode v = .ok bytes

/-- The type is that of the unsigned numbers of a width of at most 128 bits, in either form. -/
def Ty.IsUnsigned (t : Ty) (width : Nat) : Prop :=
  width ≤ 16 ∧ (t = .unsigned width ∨ t = .compact width)

section Items

variable {item : Ty}

theorem exists_encodeItems {items : List Value} (h : ∀ v ∈ items, item.Takes v) (position : Nat) :
    ∃ bytes, encodeItems item.encode position items = .ok bytes := by
  induction items generalizing position with
  | nil => exact ⟨[], rfl⟩
  | cons v rest ih =>
    obtain ⟨hv, hrest⟩ := List.forall_mem_cons.mp h
    obtain ⟨part, hpart⟩ := hv
    obtain ⟨more, hmore⟩ := ih hrest (position + 1)
    have hfirst : (item.encode v).mapError (·.under position) = .ok part :=
      Outcome.mapError_eq_ok_iff.mpr hpart
    exact ⟨part ++ more, Outcome.bind_eq_ok_iff.mpr ⟨part, hfirst, by rw [hmore]; rfl⟩⟩

/-- The first item that cannot be written decides the error. -/
theorem encodeItems_of_first_error {before : List Value} (hbefore : ∀ v ∈ before, item.Takes v) {v : Value}
    {e : EncodeError} (hv : item.encode v = .error e) (after : List Value) (position : Nat) :
    encodeItems item.encode position (before ++ v :: after) =
      .error (e.under (position + before.length)) := by
  induction before generalizing position with
  | nil =>
    simp only [List.nil_append, encodeItems, hv]
    rfl
  | cons first rest ih =>
    obtain ⟨hfirst, hrest⟩ := List.forall_mem_cons.mp hbefore
    obtain ⟨part, hpart⟩ := hfirst
    have hlater := ih hrest (position + 1)
    have hplace : position + 1 + rest.length = position + (first :: rest).length := by
      simp only [List.length_cons]
      omega
    rw [hplace] at hlater
    simp only [List.cons_append, encodeItems, hpart, hlater]
    rfl

/-- A sequence takes the items that its type takes. -/
theorem Ty.sequence_takes_iff {items : List Value} :
    (Ty.sequence item).Takes (.tuple items) ↔ ∀ v ∈ items, item.Takes v := by
  constructor
  · intro h
    obtain ⟨bytes, h⟩ := h
    obtain ⟨body, hbody, -⟩ := Outcome.bind_eq_ok_iff.mp h
    exact fun v hv => exists_encode_of_mem hbody hv
  · intro h
    obtain ⟨body, hbody⟩ := exists_encodeItems h 0
    exact ⟨_, Outcome.bind_eq_ok_iff.mpr ⟨body, hbody, rfl⟩⟩

theorem Ty.sequence_encode_of_first_error {before : List Value} (hbefore : ∀ v ∈ before, item.Takes v)
    {v : Value} {e : EncodeError} (hv : item.encode v = .error e) (after : List Value) :
    (Ty.sequence item).encode (.tuple (before ++ v :: after)) = .error (e.under before.length) := by
  have hitems := encodeItems_of_first_error hbefore hv after 0
  rw [Nat.zero_add] at hitems
  simp only [Value.tuple, Ty.encode, hitems]
  rfl

end Items

section Pairs

variable {s t : Ty} {v w : Value} {e : EncodeError}

theorem Types.encodeAll_pair (s t : Ty) (v w : Value) :
    (Types.ofList [s, t]).encodeAll [v, w] = do
      let front ← (s.encode v).mapError (·.under 0)
      let back ← (t.encode w).mapError (·.under 1)
      return front ++ back := by
  simp only [Types.encodeAll, Types.ofList, Types.length, List.length_cons, List.length_nil, if_true,
    Types.encode]
  cases s.encode v with
  | error e => rfl
  | ok front =>
    cases t.encode w with
    | error e => rfl
    | ok back => exact congrArg Except.ok (congrArg (front ++ ·) (List.append_nil back))

theorem Types.encodeAll_pair_of_takes (hv : s.Takes v) (hw : t.Takes w) :
    ∃ bytes, (Types.ofList [s, t]).encodeAll [v, w] = .ok bytes := by
  obtain ⟨front, hfront⟩ := hv
  obtain ⟨back, hback⟩ := hw
  refine ⟨front ++ back, ?_⟩
  rw [Types.encodeAll_pair, hfront, hback]
  rfl

theorem Types.encodeAll_pair_of_first_error (hv : s.encode v = .error e) :
    (Types.ofList [s, t]).encodeAll [v, w] = .error (e.under 0) := by
  rw [Types.encodeAll_pair, hv]
  rfl

theorem Types.encodeAll_pair_of_second_error (hv : s.Takes v) (hw : t.encode w = .error e) :
    (Types.ofList [s, t]).encodeAll [v, w] = .error (e.under 1) := by
  obtain ⟨front, hfront⟩ := hv
  rw [Types.encodeAll_pair, hfront, hw]
  rfl

end Pairs

section Numbers

variable {t : Ty} {width : Nat} {n : BitVec 128}

theorem Ty.IsUnsigned.takes (ht : t.IsUnsigned width) (h : n.toNat < Bytes.bound width) :
    t.Takes (.unsigned n) := by
  have hrange : (0 : Int) ≤ n.toNat ∧ (n.toNat : Int) < Bytes.bound width := by omega
  obtain ⟨hwidth, rfl | rfl⟩ := ht
  · refine ⟨Bytes.ofNat width n.toNat, ?_⟩
    simp only [Ty.encode, if_pos hwidth, encodeNumber, encodeUnsigned, if_pos hrange, Int.toNat_natCast]
  · refine ⟨Compact.encode n.toNat, ?_⟩
    simp only [Ty.encode, if_pos hwidth, encodeNumber, encodeCompact, if_pos hrange, Int.toNat_natCast]

theorem Ty.IsUnsigned.encode_of_le (ht : t.IsUnsigned width) (h : Bytes.bound width ≤ n.toNat) :
    t.encode (.unsigned n) = .error (.ofCause (.outOfRange n.toNat)) := by
  have hrange : ¬ ((0 : Int) ≤ n.toNat ∧ (n.toNat : Int) < Bytes.bound width) := by omega
  obtain ⟨hwidth, rfl | rfl⟩ := ht
  · simp only [Ty.encode, if_pos hwidth, encodeNumber, encodeUnsigned, if_neg hrange]
  · simp only [Ty.encode, if_pos hwidth, encodeNumber, encodeCompact, if_neg hrange]

/-- Bytes are written as they are. -/
theorem encodeItems_bytes (bytes : Bytes) (position : Nat) :
    encodeItems (Ty.unsigned 1).encode position (bytes.map Value.byte) = .ok bytes := by
  induction bytes generalizing position with
  | nil => rfl
  | cons b rest ih =>
    have hb : (Ty.unsigned 1).encode (.byte b) = .ok [b] := by
      have hrange : (0 : Int) ≤ b.toNat ∧ (b.toNat : Int) < Bytes.bound 1 := by
        have := b.toNat_lt
        simp only [Bytes.bound]
        omega
      have hwidth : 1 ≤ 16 := by decide
      simp only [Ty.encode, Value.byte, if_pos hwidth, encodeNumber, encodeUnsigned, Value.toNat_ofNat_byte,
        if_pos hrange, Int.toNat_natCast, Bytes.ofNat]
      simp
    rw [List.map_cons, encodeItems, hb, ih]
    rfl

end Numbers

section Cases

theorem Types.exists_of_length_eq_two : {types : Types} → types.length = 2 →
    ∃ s t, types = .ofList [s, t]
  | .cons s (.cons t .nil), _ => ⟨s, t, rfl⟩
  | .nil, h => by cases h
  | .cons _ .nil, h => by cases h
  | .cons _ (.cons _ (.cons _ _)), h => by simp [Types.length] at h

/-- A case that is found is one of the cases. -/
theorem Cases.exists_of_find?_ofList {cases : List Case} {name : String} {index : UInt8} {types : Types}
    (h : (Cases.ofList cases).find? name = some (index, types)) :
    ∃ c ∈ cases, c.name = name ∧ types = .ofList c.items := by
  induction cases with
  | nil => cases h
  | cons c rest ih =>
    by_cases hname : c.name = name
    · simp only [Cases.ofList, Cases.find?, if_pos hname, Option.some.injEq, Prod.mk.injEq] at h
      exact ⟨c, List.mem_cons_self, hname, h.2.symm⟩
    · simp only [Cases.ofList, Cases.find?, if_neg hname] at h
      obtain ⟨found, hmem, hfound⟩ := ih h
      exact ⟨found, List.mem_cons_of_mem c hmem, hfound⟩

end Cases

end Payout.Scale
