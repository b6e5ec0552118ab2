import Payout.StatusStream

/-!
# How a wait ends

Items are silent or decisive for a target. A wait takes the silent items before the first decisive one and
that one itself, and answers with what that one says; without a decisive item it takes everything. Waiting
for inclusion before waiting for finality leads to the same end as waiting for finality at once.
-/
namespace Payout

/-- The status tells that the extrinsic is under way, and nothing else. -/
def Status.isProgress : Status → Bool
  | future | ready | broadcast _ | retracted _ => true
  | _ => false

namespace StatusStream

/-- Someone who waits for the target goes on after the item. -/
def Silent (target : Target) (item : Item) : Prop :=
  verdict target item = none

/-- The items have a first one that tells of inclusion in a block, and those before it tell of progress. -/
def ReachesBlock (items : List Item) (info : TxInfo) : Prop :=
  ∃ before item after, items = before ++ item :: after ∧
    (∀ i ∈ before, ∃ status : Status, i = .ok status ∧ status.isProgress = true) ∧
    (item = .ok (.inBlock info) ∨ item = .ok (.finalized info))

/-- The items have a finalized block, and before it neither an error nor a status that rejects. -/
def ReachesFinality (items : List Item) : Prop :=
  ∃ before info after, items = before ++ .ok (.finalized info) :: after ∧
    ∀ i ∈ before, ∃ status : Status, i = .ok status ∧ status.rejection = none

/-- Silent items are taken, and change nothing else about a wait. -/
theorem await_append_of_silent {target : Target} {before : List Item} (rest : List Item)
    (h : ∀ i ∈ before, Silent target i) :
    await target (before ++ rest) =
      { await target rest with taken := before ++ (await target rest).taken } := by
  induction before with
  | nil => rfl
  | cons first before ih =>
    have hfirst : verdict target first = none := h first (by simp)
    have hbefore := ih (fun i hi => h i (by simp [hi]))
    simp only [List.cons_append, await, hfirst, hbefore]

theorem await_of_silent {target : Target} {items : List Item} (h : ∀ i ∈ items, Silent target i) :
    await target items = ⟨.error (.submission (.streamEnded target)), items, [], none⟩ := by
  have hwait := await_append_of_silent [] h
  simpa only [List.append_nil, await] using hwait

theorem await_of_decisive {target : Target} {before : List Item} {item : Item} (after : List Item)
    {answer : Except Failure TxInfo} (hb : ∀ i ∈ before, Silent target i)
    (h : verdict target item = some answer) :
    await target (before ++ item :: after) =
      ⟨answer, before ++ [item], after, finalizedBy item⟩ := by
  rw [await_append_of_silent _ hb]
  simp only [await, h]

/-- Every list of items is silent, or has a first decisive item. -/
theorem silent_or_decisive (target : Target) (items : List Item) :
    (∀ i ∈ items, Silent target i) ∨
      ∃ before item after answer, items = before ++ item :: after ∧
        (∀ i ∈ before, Silent target i) ∧ verdict target item = some answer := by
  induction items with
  | nil => exact .inl (by simp)
  | cons first rest ih =>
    cases hfirst : verdict target first with
    | some answer => exact .inr ⟨[], first, rest, answer, rfl, by simp, hfirst⟩
    | none =>
      rcases ih with hrest | ⟨before, item, after, answer, rfl, hb, hanswer⟩
      · refine .inl fun i hi => ?_
        rcases List.mem_cons.mp hi with rfl | hi
        · exact hfirst
        · exact hrest i hi
      · refine .inr ⟨first :: before, item, after, answer, rfl, fun i hi => ?_, hanswer⟩
        rcases List.mem_cons.mp hi with rfl | hi
        · exact hfirst
        · exact hb i hi

theorem verdict_eq_ok_iff {target : Target} {item : Item} {info : TxInfo} :
    verdict target item = some (.ok info) ↔
      (target = .inBlock ∧ item = .ok (.inBlock info)) ∨ item = .ok (.finalized info) := by
  rcases item with e | status
  · simp [verdict]
  · cases status <;> simp [verdict, Status.rejection]

/-- A wait succeeds exactly when its first decisive item tells of a block. -/
theorem await_eq_ok_iff {target : Target} {items : List Item} {info : TxInfo} :
    (await target items).answer = .ok info ↔
      ∃ before item after, items = before ++ item :: after ∧ (∀ i ∈ before, Silent target i) ∧
        verdict target item = some (.ok info) := by
  constructor
  · intro h
    rcases silent_or_decisive target items with hs | ⟨before, item, after, answer, rfl, hb, hv⟩
    · simp [await_of_silent hs] at h
    · rw [await_of_decisive after hb hv] at h
      exact ⟨before, item, after, rfl, hb, h ▸ hv⟩
  · intro h
    obtain ⟨before, item, after, rfl, hb, hv⟩ := h
    rw [await_of_decisive after hb hv]

theorem await_found_eq_some_iff {target : Target} {items : List Item} {info : TxInfo} :
    (await target items).found = some info ↔ .ok (.finalized info) ∈ (await target items).taken := by
  rcases silent_or_decisive target items with hs | ⟨before, item, after, answer, rfl, hb, hv⟩
  · have hfin : .ok (.finalized info) ∉ items := fun hi => by simpa [Silent, verdict] using hs _ hi
    simp [await_of_silent hs, hfin]
  · have hfin : .ok (.finalized info) ∉ before := fun hi => by
      simpa [Silent, verdict] using hb _ hi
    simp only [await_of_decisive after hb hv, List.mem_append, hfin, false_or, List.mem_singleton]
    rcases item with e | status
    · simp [finalizedBy]
    · cases status <;> simp [finalizedBy, eq_comm]

theorem silent_inBlock_iff {item : Item} :
    Silent .inBlock item ↔ ∃ status : Status, item = .ok status ∧ status.isProgress = true := by
  rcases item with e | status
  · simp [Silent, verdict]
  · cases status <;> simp [Silent, verdict, Status.rejection, Status.isProgress]

theorem silent_finalized_iff {item : Item} :
    Silent .finalized item ↔
      finalizedBy item = none ∧ ∃ status : Status, item = .ok status ∧ status.rejection = none := by
  rcases item with e | status
  · simp [Silent, verdict]
  · cases status <;> simp [Silent, verdict, Status.rejection, finalizedBy]

theorem await_inBlock_eq_ok_iff {items : List Item} {info : TxInfo} :
    (await .inBlock items).answer = .ok info ↔ ReachesBlock items info := by
  simp only [await_eq_ok_iff, ReachesBlock, silent_inBlock_iff, verdict_eq_ok_iff, true_and]

/-- What is silent for inclusion is silent for finality. -/
theorem Silent.finalized {item : Item} (h : Silent .inBlock item) : Silent .finalized item := by
  rcases item with e | status
  · simp [Silent, verdict] at h
  · cases status <;> simp_all [Silent, verdict, Status.rejection]

/-- A wait for finality succeeds exactly when a finalized block comes before every error and rejection. -/
theorem await_finalized_eq_ok_iff {items : List Item} :
    (∃ info, (await .finalized items).answer = .ok info) ↔ ReachesFinality items := by
  constructor
  · intro h
    obtain ⟨info, h⟩ := h
    obtain ⟨before, item, after, rfl, hb, hv⟩ := await_eq_ok_iff.mp h
    have hitem : item = .ok (.finalized info) := by simpa [verdict_eq_ok_iff] using hv
    exact ⟨before, info, after, by rw [hitem], fun i hi => (silent_finalized_iff.mp (hb i hi)).2⟩
  · intro h
    obtain ⟨before, info, after, rfl, hb⟩ := h
    induction before with
    | nil => exact ⟨info, rfl⟩
    | cons first before ih =>
      obtain ⟨status, rfl, hstatus⟩ := hb first (by simp)
      have hrest := ih (fun i hi => hb i (by simp [hi]))
      cases hfound : finalizedBy (.ok status) with
      | some earlier =>
        cases status with
        | finalized _ => exact ⟨_, rfl⟩
        | _ => cases hfound
      | none =>
        have hsilent : verdict .finalized (.ok status) = none :=
          silent_finalized_iff.mpr ⟨hfound, status, rfl, hstatus⟩
        simpa only [List.cons_append, await, hsilent] using hrest

section Fresh

variable {s : StatusStream}

theorem wait_eq_await {target : Target} (hs : s.finalized = none) (ht : target ≠ .submitted) :
    s.wait target = await target s.items := by
  cases target with
  | submitted => exact absurd rfl ht
  | inBlock | finalized => simp only [wait, hs]

theorem waitFor_eq_await {target : Target} (hs : s.finalized = none) (ht : target ≠ .submitted) :
    s.waitFor target = ((await target s.items).answer,
      ⟨s.txHash, (await target s.items).found, (await target s.items).left⟩) := by
  rw [waitFor, wait_eq_await hs ht, hs]
  rfl

theorem waitFor_new (tx : TxHash) (items : List Item) {target : Target} (ht : target ≠ .submitted) :
    (new tx items).waitFor target =
      ((await target items).answer, ⟨tx, (await target items).found, (await target items).left⟩) :=
  waitFor_eq_await rfl ht

/-- A wait for finality after a successful wait for inclusion is the wait for finality at once: it has the same
answer and leaves the same stream. -/
theorem waitFor_finalized_after_inBlock {info : TxInfo} (hs : s.finalized = none)
    (h : (s.wait .inBlock).answer = .ok info) :
    (s.waitFor .inBlock).2.waitFor .finalized = s.waitFor .finalized := by
  rw [wait_eq_await hs (by decide)] at h
  obtain ⟨before, item, after, hitems, hb, hv⟩ := await_eq_ok_iff.mp h
  have hbf : ∀ i ∈ before, Silent .finalized i := fun i hi => (hb i hi).finalized
  have hfirst : (s.waitFor .inBlock).2 = ⟨s.txHash, finalizedBy item, after⟩ := by
    rw [waitFor_eq_await hs (by decide), hitems, await_of_decisive after hb hv]
  rw [hfirst, waitFor_eq_await hs (by decide), hitems, await_append_of_silent _ hbf]
  rcases verdict_eq_ok_iff.mp hv with ⟨-, rfl⟩ | rfl
  · -- The block was not final: the second wait starts where the first one stopped.
    exact waitFor_eq_await rfl (by decide)
  · -- The block was final, and the second wait is answered from memory.
    rfl

theorem wait_finalized_after_inBlock {info : TxInfo} (hs : s.finalized = none)
    (h : (s.wait .inBlock).answer = .ok info) :
    ((s.waitFor .inBlock).2.wait .finalized).answer = (await .finalized s.items).answer := by
  have hsame := congrArg Prod.fst (waitFor_finalized_after_inBlock hs h)
  have hdirect : s.waitFor .finalized = _ := waitFor_eq_await hs (by decide)
  exact hsame.trans (congrArg Prod.fst hdirect)

end Fresh

section Failing

theorem verdict_finalized_of_error {item : Item} {e : Failure} (h : verdict .inBlock item = some (.error e)) :
    verdict .finalized item = some (.error e) := by
  rcases item with failure | status
  · exact h
  · cases status with
    | inBlock info => cases h
    | _ => exact h

/-- The items tell that the extrinsic is under way, and nothing else. -/
def OnlyProgress (items : List Item) : Prop :=
  ∀ i ∈ items, ∃ status : Status, i = .ok status ∧ status.isProgress = true

/-- A wait for inclusion fails at the end of the items, where a wait for finality does as well, or at an item that
fails a wait for finality in the same way. -/
theorem await_inBlock_eq_error {items : List Item} {e : Failure} (h : (await .inBlock items).answer = .error e) :
    OnlyProgress items ∧ e = .submission (.streamEnded .inBlock) ∧
        await .finalized items =
          { await .inBlock items with answer := .error (.submission (.streamEnded .finalized)) } ∨
      ¬ OnlyProgress items ∧ await .finalized items = await .inBlock items := by
  rcases silent_or_decisive .inBlock items with hs | ⟨before, item, after, answer, rfl, hb, hv⟩
  · -- Both waits take everything, and each reports its own target.
    have hsf : ∀ i ∈ items, Silent .finalized i := fun i hi => (hs i hi).finalized
    rw [await_of_silent hs] at h ⊢
    exact .inl ⟨fun i hi => silent_inBlock_iff.mp (hs i hi), (Except.error.inj h).symm, await_of_silent hsf⟩
  · -- Both waits stop at the first decisive item.
    have hbf : ∀ i ∈ before, Silent .finalized i := fun i hi => (hb i hi).finalized
    rw [await_of_decisive after hb hv] at h ⊢
    obtain rfl : answer = .error e := h
    refine .inr ⟨fun hprogress => ?_, await_of_decisive after hbf (verdict_finalized_of_error hv)⟩
    have hsilent : verdict .inBlock item = none := silent_inBlock_iff.mpr (hprogress item (by simp))
    rw [hv] at hsilent
    cases hsilent

end Failing

/-- Waiting for inclusion first changes nothing about finality. When it succeeds, a wait for finality then goes as
it would have gone at once. When it fails at an item, a wait for finality fails at the same item with the same
error; when it fails at the end of the items, so does a wait for finality, with the error of its own target. -/
theorem waitFor_inBlock_first (tx : TxHash) (items : List Item) :
    (∀ info, ((new tx items).waitFor .inBlock).1 = .ok info →
      ((new tx items).waitFor .inBlock).2.waitFor .finalized = (new tx items).waitFor .finalized) ∧
    (∀ e, ((new tx items).waitFor .inBlock).1 = .error e →
      ((new tx items).waitFor .finalized).2 = ((new tx items).waitFor .inBlock).2 ∧
      (OnlyProgress items ∧ e = .submission (.streamEnded .inBlock) ∧
          ((new tx items).waitFor .finalized).1 = .error (.submission (.streamEnded .finalized)) ∨
        ¬ OnlyProgress items ∧ ((new tx items).waitFor .finalized).1 = .error e)) ∧
    ((∃ info, ((new tx items).waitFor .finalized).1 = .ok info) →
      ∃ info, ((new tx items).waitFor .inBlock).1 = .ok info) := by
  have hfirst := waitFor_new tx items (show Target.inBlock ≠ .submitted by decide)
  have hdirect := waitFor_new tx items (show Target.finalized ≠ .submitted by decide)
  refine ⟨fun info h => waitFor_finalized_after_inBlock rfl h, fun e h => ?_, fun h => ?_⟩
  · rw [hfirst] at h
    rw [hfirst, hdirect]
    rcases await_inBlock_eq_error h with ⟨hprogress, he, hend⟩ | ⟨hprogress, hsame⟩
    · rw [hend]
      exact ⟨rfl, .inl ⟨hprogress, he, rfl⟩⟩
    · rw [hsame]
      exact ⟨rfl, .inr ⟨hprogress, h⟩⟩
  · obtain ⟨info, h⟩ := h
    rw [hdirect] at h
    simp only [hfirst]
    cases hanswer : (await .inBlock items).answer with
    | ok other => exact ⟨other, rfl⟩
    | error e =>
      rcases await_inBlock_eq_error hanswer with ⟨-, -, hend⟩ | ⟨-, hsame⟩
      · simp only [hend] at h
        cases h
      · simp only [hsame, hanswer] at h
        cases h

/-- The extrinsic leaves the block that included it, and is final in another one. -/
def moved : List Item :=
  [.ok .ready, .ok (.inBlock ⟨.repeated 1, .repeated 9⟩), .ok (.retracted (.repeated 1)),
    .ok (.finalized ⟨.repeated 2, .repeated 9⟩), .ok .invalid]

/-- Another extrinsic takes the place of the first. -/
def replaced : List Item :=
  [.ok .ready, .ok (.usurped (.repeated 8)), .ok (.finalized ⟨.repeated 2, .repeated 9⟩)]

theorem waitFor_inBlock_first_moved :
    ((new (.repeated 9) moved).waitFor .inBlock).2.waitFor .finalized =
        (new (.repeated 9) moved).waitFor .finalized ∧
      ((new (.repeated 9) replaced).waitFor .finalized).2 = ((new (.repeated 9) replaced).waitFor .inBlock).2 ∧
      ∃ info, ((new (.repeated 9) moved).waitFor .inBlock).1 = .ok info :=
  ⟨(waitFor_inBlock_first _ _).1 ⟨.repeated 1, .repeated 9⟩ rfl,
    ((waitFor_inBlock_first _ _).2.1 (.submission (.usurped (.repeated 8))) rfl).1,
    (waitFor_inBlock_first _ _).2.2 ⟨⟨.repeated 2, .repeated 9⟩, rfl⟩⟩

/-- An item that is itself the error of an ended wait for inclusion is not taken for the end of the items: a wait
for finality passes it on as it is. -/
theorem waitFor_finalized_keeps_ended_item :
    ((new (.repeated 9) [.error (.submission (.streamEnded .inBlock))]).waitFor .inBlock).1 =
        .error (.submission (.streamEnded .inBlock)) ∧
      ((new (.repeated 9) [.error (.submission (.streamEnded .inBlock))]).waitFor .finalized).1 ≠
        .error (.submission (.streamEnded .finalized)) := by
  refine ⟨rfl, fun h => ?_⟩
  have hkept : ((new (.repeated 9) [.error (.submission (.streamEnded .inBlock))]).waitFor .finalized).1 =
      .error (.submission (.streamEnded .inBlock)) := rfl
  rw [hkept] at h
  cases h

end StatusStream
end Payout
