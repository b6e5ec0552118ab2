import Payout.Proofs.StatusStream.History

/-!
# Waiting again for the same target

A wait that succeeds settles its target for good when it is answered by a finalized block, or needs none: every
later wait for the target has the same answer and takes nothing. A wait for inclusion that is answered by a block
that is not final settles nothing. The next one goes on with the items that are left, as on a fresh stream, and
is told that the stream has ended when they tell of progress only.
-/
namespace Payout.StatusStream

/-- Every wait for the target has the answer, from memory. -/
inductive Settles (s : StatusStream) : Target → TxInfo → Prop
  | submitted : Settles s .submitted ⟨Bytes32.zero, s.txHash⟩
  | finalized {target : Target} {info : TxInfo} (ht : target ≠ .submitted) (hs : s.finalized = some info) :
    Settles s target info

/-- The first decisive item of a wait for inclusion tells of a block that is not final. -/
inductive Provisional (s : StatusStream) : Target → TxInfo → Prop
  | inBlock {before after : List Item} {info : TxInfo} (hs : s.finalized = none)
      (hitems : s.items = before ++ .ok (.inBlock info) :: after) (hbefore : OnlyProgress before) :
    Provisional s .inBlock info

section Settled

variable {s : StatusStream} {target : Target} {info : TxInfo}

theorem Settles.wait (h : s.Settles target info) : s.wait target = ⟨.ok info, [], s.items, none⟩ := by
  cases h with
  | submitted => rfl
  | finalized ht hs => exact wait_of_finalized hs ht

theorem Settles.waitFor (h : s.Settles target info) : s.waitFor target = (.ok info, s) := by
  rw [StatusStream.waitFor, h.wait]
  cases s with
  | mk tx finalized items => cases finalized <;> rfl

theorem Settles.run (h : s.Settles target info) (ops : List Operation) :
    (s.run ops).stream.Settles target info := by
  cases h with
  | submitted =>
    rw [← run_txHash s ops]
    exact .submitted
  | finalized ht hs => exact .finalized ht (run_finalized_of_finalized ops hs)

/-- What is settled stays so, whatever is done with the stream. -/
theorem Settles.event (h : s.Settles target info) {ops : List Operation} {e : Event}
    (he : e ∈ (s.run ops).events) (hop : e.operation = .waitFor target) :
    e.answer = .info (.ok info) ∧ e.taken = [] := by
  obtain ⟨earlier, -, -, hearlier⟩ := exists_perform_of_mem he
  have hsettled := h.run earlier
  rw [hearlier, hop]
  simp only [perform, StatusStream.waitFor, hsettled.wait, and_self]

end Settled

section Provisional

variable {s : StatusStream} {target : Target} {info : TxInfo}

/-- A provisional block is not remembered. -/
theorem Provisional.waitFor (h : s.Provisional target info) :
    s.waitFor target = (.ok info, new s.txHash (s.waitFor target).2.items) := by
  cases h with
  | @inBlock before after info hs hitems hbefore =>
    have hsilent : ∀ i ∈ before, Silent .inBlock i := fun i hi => silent_inBlock_iff.mpr (hbefore i hi)
    have hwait : await .inBlock s.items = ⟨.ok info, before ++ [.ok (.inBlock info)], after, none⟩ := by
      rw [hitems]
      exact await_of_decisive after hsilent rfl
    rw [waitFor_eq_await hs (by decide), hwait]
    rfl

theorem Provisional.forgotten (h : s.Provisional target info) : (s.waitFor target).2.finalized = none :=
  congrArg (fun w => w.2.finalized) h.waitFor

theorem settles_or_provisional (h : (s.waitFor target).1 = .ok info) :
    (s.waitFor target).2.Settles target info ∨ s.Provisional target info := by
  by_cases ht : target = .submitted
  · subst ht
    obtain rfl := Except.ok.inj h
    exact .inl .submitted
  · cases hs : s.finalized with
    | some known =>
      have hsettled : s.Settles target known := .finalized ht hs
      rw [hsettled.waitFor] at h ⊢
      obtain rfl := Except.ok.inj h
      exact .inl hsettled
    | none =>
      rw [waitFor_eq_await hs ht] at h
      obtain ⟨before, item, after, hitems, hbefore, hv⟩ := await_eq_ok_iff.mp h
      rcases verdict_eq_ok_iff.mp hv with ⟨rfl, rfl⟩ | rfl
      · apply Or.inr
        apply Provisional.inBlock hs hitems
        intro i hi
        exact silent_inBlock_iff.mp (hbefore i hi)
      · apply Or.inl
        apply Settles.finalized ht
        rw [waitFor_eq_await hs ht, hitems, await_of_decisive after hbefore hv]
        rfl

end Provisional

/-- A wait that succeeds is answered in the same way by every later wait for its target, and these take nothing,
unless it was answered by a block that is not final. Then the next wait for inclusion goes on with what is left as
on a fresh stream, and is told that the stream has ended when nothing but progress is left. -/
theorem waitFor_again {s : StatusStream} {target : Target} {info : TxInfo}
    (h : (s.waitFor target).1 = .ok info) :
    (¬ s.Provisional target info →
      (s.waitFor target).2.waitFor target = (.ok info, (s.waitFor target).2) ∧
      ∀ ops, ∀ e ∈ ((s.waitFor target).2.run ops).events, e.operation = .waitFor target →
        e.answer = .info (.ok info) ∧ e.taken = []) ∧
    (s.Provisional target info →
      (s.waitFor target).2.waitFor target = (new s.txHash (s.waitFor target).2.items).waitFor target ∧
      (OnlyProgress (s.waitFor target).2.items →
        ((s.waitFor target).2.waitFor target).1 = .error (.submission (.streamEnded target)))) := by
  constructor
  · intro hfinal
    have hsettled : (s.waitFor target).2.Settles target info :=
      (settles_or_provisional h).resolve_right hfinal
    exact ⟨hsettled.waitFor, fun ops e he hop => hsettled.event he hop⟩
  · intro hprovisional
    have hfresh : (s.waitFor target).2 = new s.txHash (s.waitFor target).2.items :=
      congrArg Prod.snd hprovisional.waitFor
    have hagain := congrArg (StatusStream.waitFor · target) hfresh
    refine ⟨hagain, fun hprogress => ?_⟩
    cases hprovisional with
    | inBlock =>
      have hsilent : ∀ i ∈ (s.waitFor .inBlock).2.items, Silent .inBlock i := fun i hi =>
        silent_inBlock_iff.mpr (hprogress i hi)
      have hend := await_of_silent hsilent
      simp only [hagain, waitFor_new _ _ (show Target.inBlock ≠ .submitted by decide), hend]

/-- The extrinsic is final in a block before it is said to be invalid. -/
def concluded : List Item :=
  [.ok .ready, .ok (.finalized ⟨.repeated 2, .repeated 9⟩), .ok .invalid]

/-- The extrinsic is in a block, and nothing more is told of blocks. -/
def included : List Item :=
  [.ok (.inBlock ⟨.repeated 1, .repeated 9⟩), .ok .ready]

theorem waitFor_again_concluded :
    ((new (.repeated 9) concluded).waitFor .inBlock).2.waitFor .inBlock =
        (.ok ⟨.repeated 2, .repeated 9⟩, ((new (.repeated 9) concluded).waitFor .inBlock).2) ∧
      (((new (.repeated 9) included).waitFor .inBlock).2.waitFor .inBlock).1 =
        .error (.submission (.streamEnded .inBlock)) := by
  have hfinal : ¬ (new (.repeated 9) concluded).Provisional .inBlock ⟨.repeated 2, .repeated 9⟩ := by
    intro h
    cases h.forgotten
  have hprovisional : (new (.repeated 9) included).Provisional .inBlock ⟨.repeated 1, .repeated 9⟩ :=
    .inBlock rfl (List.nil_append _).symm (by simp [OnlyProgress])
  have hprogress : OnlyProgress ((new (.repeated 9) included).waitFor .inBlock).2.items := by
    intro i hi
    exact ⟨.ready, List.mem_singleton.mp hi, rfl⟩
  constructor
  · exact ((waitFor_again rfl).1 hfinal).1
  · exact ((waitFor_again rfl).2 hprovisional).2 hprogress

/-- Waiting for inclusion is not repeatable: the block that a first wait found is lost to the second. -/
theorem waitFor_inBlock_not_repeatable :
    ((new (.repeated 9) included).waitFor .inBlock).1 = .ok ⟨.repeated 1, .repeated 9⟩ ∧
      (((new (.repeated 9) included).waitFor .inBlock).2.waitFor .inBlock).1 =
        .error (.submission (.streamEnded .inBlock)) ∧
      ¬ ∀ (s : StatusStream) (target : Target) (info : TxInfo), (s.waitFor target).1 = .ok info →
        ((s.waitFor target).2.waitFor target).1 = .ok info := by
  refine ⟨rfl, rfl, fun h => ?_⟩
  have hsecond := h (new (.repeated 9) included) .inBlock ⟨.repeated 1, .repeated 9⟩ rfl
  cases hsecond

end Payout.StatusStream
