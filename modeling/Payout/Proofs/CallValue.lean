import Payout.Proofs.CallData

/-!
# What call values tell apart

A transfer can be told from its call value, and a batch from its own. Two batches have different call values when their
modes or their lengths are different, or when at one place there is another receiver, another amount or another call.
-/
namespace Payout

/-- Some byte of the receiver is another, or the amount, or the call. -/
def Transfer.Differs (a b : Transfer) : Prop :=
  (∃ i : Nat, a.dest.toList[i]? ≠ b.dest.toList[i]?) ∨ a.value ≠ b.value ∨ a.call ≠ b.call

/-- The modes are different, or the numbers of transfers, or two transfers at the same place. -/
def Batch.Differs (x y : Batch) : Prop :=
  x.mode ≠ y.mode ∨ x.length ≠ y.length ∨
    ∃ (i : Nat) (a b : Transfer), x.transfers[i]? = some a ∧ y.transfers[i]? = some b ∧ a.Differs b

theorem Transfer.callValue_eq_iff {a b : Transfer} : a.callValue = b.callValue ↔ a = b := by
  constructor
  · exact callValue_injective
  · rintro rfl
    rfl

theorem Batch.callValue_eq_iff {x y : Batch} : x.callValue = y.callValue ↔ x = y := by
  constructor
  · exact callValue_injective
  · rintro rfl
    rfl

theorem Bytes32.ne_iff {a b : Bytes32} : a ≠ b ↔ ∃ i : Nat, a.toList[i]? ≠ b.toList[i]? := by
  rw [← not_forall, ← List.ext_getElem?_iff]
  exact not_congr ⟨congrArg Bytes32.toList, Bytes32.ext⟩

theorem Transfer.differs_iff {a b : Transfer} : a.Differs b ↔ a ≠ b := by
  rw [Differs, ← Bytes32.ne_iff]
  constructor
  · rintro (h | h | h) rfl
    · exact h rfl
    · exact h rfl
    · exact h rfl
  · intro h
    by_contra hsame
    simp only [not_or, not_not] at hsame
    obtain ⟨hdest, hvalue, hcall⟩ := hsame
    cases a
    cases b
    simp_all

/-- Lists of one length that are different are so at some place. -/
theorem Batch.exists_transfer_ne {x y : Batch} (hlength : x.length = y.length) (hne : x.transfers ≠ y.transfers) :
    ∃ (i : Nat) (a b : Transfer), x.transfers[i]? = some a ∧ y.transfers[i]? = some b ∧ a ≠ b := by
  by_contra hnone
  refine hne (List.ext_getElem hlength fun i hx hy => ?_)
  by_contra hplace
  exact hnone ⟨i, x.transfers[i], y.transfers[i], List.getElem?_eq_getElem hx, List.getElem?_eq_getElem hy, hplace⟩

theorem Batch.differs_iff {x y : Batch} : x.Differs y ↔ x ≠ y := by
  simp only [Differs, Transfer.differs_iff]
  constructor
  · rintro (h | h | ⟨i, a, b, ha, hb, h⟩) rfl
    · exact h rfl
    · exact h rfl
    · exact h (Option.some.inj (ha.symm.trans hb))
  · intro hne
    by_cases hmode : x.mode = y.mode
    · by_cases hlength : x.length = y.length
      · refine .inr (.inr (exists_transfer_ne hlength fun htransfers => hne ?_))
        cases x
        cases y
        simp_all
      · exact .inr (.inl hlength)
    · exact .inl hmode

/-- Repeated transfers are the same when there are equally many of the same transfer, or none. -/
theorem Batch.repeated_eq_iff {t u : Transfer} {count other : Nat} {mode mode' : BatchMode} :
    repeated t count mode = repeated u other mode' ↔ mode = mode' ∧ count = other ∧ (count = 0 ∨ t = u) := by
  rw [repeated, repeated, Batch.mk.injEq, List.replicate_inj, and_comm]

/-- Transfers and batches are what their call values say, and whatever they differ in shows there. -/
theorem callValue_faithful (a b : Transfer) (x y : Batch) (count other : Nat) (mode mode' : BatchMode) :
    (a = b ↔ a.callValue = b.callValue) ∧ (x = y ↔ x.callValue = y.callValue) ∧
      (a.Differs b ↔ a.callValue ≠ b.callValue) ∧ (x.Differs y ↔ x.callValue ≠ y.callValue) ∧
        (Batch.repeated a count mode = Batch.repeated b other mode' ↔
          mode = mode' ∧ count = other ∧ (count = 0 ∨ a = b)) := by
  refine ⟨Transfer.callValue_eq_iff.symm, Batch.callValue_eq_iff.symm, ?_, ?_, Batch.repeated_eq_iff⟩
  · rw [Transfer.differs_iff, ne_eq, ne_eq, Transfer.callValue_eq_iff]
  · rw [Batch.differs_iff, ne_eq, ne_eq, Batch.callValue_eq_iff]

end Payout
