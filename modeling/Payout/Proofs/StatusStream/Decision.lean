import Payout.Proofs.StatusStream.History

/-!
# The decisive item of a wait

Which items end a wait for a block, and with which answer. A wait of a stream that remembers no block takes
its items up to the first decisive one and no further; a stream that has none is taken to its end, and from
then on every wait for a block is told that the stream has ended.
-/
namespace Payout.StatusStream

/-- What an item that ends a wait for a target answers to it. -/
inductive Decides (target : Target) : Item → Except Failure TxInfo → Prop
  | failure (e : Failure) : Decides target (.error e) (.error e)
  | dropped : Decides target (.ok .dropped) (.error (.submission .dropped))
  | invalid : Decides target (.ok .invalid) (.error (.submission .invalid))
  | usurped (tx : TxHash) : Decides target (.ok (.usurped tx)) (.error (.submission (.usurped tx)))
  | finalityTimeout (block : BlockHash) :
    Decides target (.ok (.finalityTimeout block)) (.error (.submission (.finalityTimeout block)))
  | finalized (info : TxInfo) : Decides target (.ok (.finalized info)) (.ok info)
  | inBlock (info : TxInfo) (h : target = .inBlock) : Decides target (.ok (.inBlock info)) (.ok info)

/-- The item ends a wait for the target. -/
def Decisive (target : Target) (item : Item) : Prop :=
  ∃ answer, Decides target item answer

section Item

variable {target : Target} {item : Item} {answer : Except Failure TxInfo}

theorem Decides.verdict (h : Decides target item answer) : verdict target item = some answer := by
  cases h with
  | inBlock info htarget => simp only [StatusStream.verdict, if_pos htarget]
  | _ => rfl

theorem decides_of_verdict (h : verdict target item = some answer) : Decides target item answer := by
  rcases item with e | status
  · obtain rfl := Option.some.inj h
    exact .failure e
  · cases status with
    | inBlock info =>
      by_cases htarget : target = .inBlock
      · simp only [verdict, if_pos htarget, Option.some.injEq] at h
        exact h ▸ .inBlock info htarget
      · simp only [verdict, if_neg htarget, reduceCtorEq] at h
    | finalized info => exact Option.some.inj h ▸ .finalized info
    | dropped => exact Option.some.inj h ▸ .dropped
    | invalid => exact Option.some.inj h ▸ .invalid
    | usurped tx => exact Option.some.inj h ▸ .usurped tx
    | finalityTimeout block => exact Option.some.inj h ▸ .finalityTimeout block
    | _ => cases h

theorem verdict_eq_some_iff : verdict target item = some answer ↔ Decides target item answer :=
  ⟨decides_of_verdict, Decides.verdict⟩

theorem silent_iff_not_decisive : Silent target item ↔ ¬ Decisive target item := by
  simp only [Silent, Option.eq_none_iff_forall_ne_some, ne_eq, verdict_eq_some_iff, Decisive, not_exists]

/-- A status that rejects the extrinsic decides every wait, with its own rejection. -/
theorem decides_of_rejection {status : Status} {e : SubmissionError} (h : status.rejection = some e) :
    Decides target (.ok status) (.error (.submission e)) := by
  have hverdict : verdict target (.ok status) = some (.error (.submission e)) := by
    cases status with
    | inBlock info => cases h
    | finalized info => cases h
    | _ => simp only [verdict, h, Option.map_some]
  exact decides_of_verdict hverdict

end Item

theorem finalizedBy_eq_some_iff {item : Item} {info : TxInfo} :
    finalizedBy item = some info ↔ item = .ok (.finalized info) := by
  rcases item with e | status
  · simp [finalizedBy]
  · cases status <;> simp [finalizedBy]

section Items

variable {target : Target}

/-- A list with a decisive item has a first one. -/
theorem exists_first_decisive {items : List Item} (h : ∃ i ∈ items, Decisive target i) :
    ∃ before item after answer, items = before ++ item :: after ∧
      (∀ i ∈ before, ¬ Decisive target i) ∧ Decides target item answer := by
  rcases silent_or_decisive target items with hsilent | ⟨before, item, after, answer, hitems, hbefore, hv⟩
  · obtain ⟨i, hi, hdecisive⟩ := h
    have hnot : ¬ Decisive target i := silent_iff_not_decisive.mp (hsilent i hi)
    exact absurd hdecisive hnot
  · have hfirst : ∀ i ∈ before, ¬ Decisive target i := fun i hi =>
      silent_iff_not_decisive.mp (hbefore i hi)
    exact ⟨before, item, after, answer, hitems, hfirst, decides_of_verdict hv⟩

theorem await_of_first_decisive {before : List Item} {item : Item} (after : List Item)
    {answer : Except Failure TxInfo} (hbefore : ∀ i ∈ before, ¬ Decisive target i)
    (hitem : Decides target item answer) :
    await target (before ++ item :: after) = ⟨answer, before ++ [item], after, finalizedBy item⟩ := by
  have hsilent : ∀ i ∈ before, Silent target i := fun i hi => silent_iff_not_decisive.mpr (hbefore i hi)
  exact await_of_decisive after hsilent hitem.verdict

theorem await_of_not_decisive {items : List Item} (h : ∀ i ∈ items, ¬ Decisive target i) :
    await target items = ⟨.error (.submission (.streamEnded target)), items, [], none⟩ := by
  apply await_of_silent
  intro i hi
  exact silent_iff_not_decisive.mpr (h i hi)

end Items

section Exhausted

variable {s : StatusStream}

/-- Nothing can be done to a stream that is empty and remembers no block. -/
theorem perform_of_exhausted (hitems : s.items = []) (hs : s.finalized = none) (op : Operation) :
    (s.perform op).2 = s := by
  obtain ⟨tx, finalized, items⟩ := s
  obtain rfl : items = [] := hitems
  obtain rfl : finalized = none := hs
  cases op with
  | waitFor target => cases target <;> rfl
  | _ => rfl

theorem run_of_exhausted (hitems : s.items = []) (hs : s.finalized = none) (ops : List Operation) :
    (s.run ops).stream = s := by
  induction ops with
  | nil => rfl
  | cons op ops ih =>
    have hstep := perform_of_exhausted hitems hs op
    simp only [run, hstep, ih]

/-- A wait for a block is told that an exhausted stream has ended, whatever was done with it before. -/
theorem answer_of_exhausted (hitems : s.items = []) (hs : s.finalized = none) {ops : List Operation}
    {e : Event} (he : e ∈ (s.run ops).events) {target : Target} (hop : e.operation = .waitFor target)
    (ht : target ≠ .submitted) : e.answer = .info (.error (.submission (.streamEnded target))) := by
  obtain ⟨earlier, -, -, hearlier⟩ := exists_perform_of_mem he
  have hsame := run_of_exhausted hitems hs earlier
  have hwait : s.wait target = await target [] := hitems ▸ wait_eq_await hs ht
  rw [hearlier, hop, hsame]
  simp only [perform, waitFor, hwait, await]

end Exhausted

/-- A wait for a block, on a stream that remembers none, takes the items up to the first decisive one, gives
the answer of that one, and leaves the others; a block is remembered when that one tells that it is final.
Without a decisive item the wait takes everything and reports that the stream has ended, as does every wait
for a block on an empty stream, whatever was done with it before. -/
theorem waitFor_first_decisive {s : StatusStream} {target : Target} (hs : s.finalized = none)
    (ht : target ≠ .submitted) :
    (∀ before item after answer, s.items = before ++ item :: after →
      (∀ i ∈ before, ¬ Decisive target i) → Decides target item answer →
        (s.wait target).taken = before ++ [item] ∧ (s.waitFor target).1 = answer ∧
          (s.waitFor target).2.items = after ∧
          ∀ info, (s.waitFor target).2.finalized = some info ↔ item = .ok (.finalized info)) ∧
    ((∀ i ∈ s.items, ¬ Decisive target i) →
      (s.wait target).taken = s.items ∧
        s.waitFor target = (.error (.submission (.streamEnded target)), { s with items := [] })) ∧
    ((∃ i ∈ s.items, Decisive target i) →
      ∃ before item after answer, s.items = before ++ item :: after ∧
        (∀ i ∈ before, ¬ Decisive target i) ∧ Decides target item answer) ∧
    (∀ status e, status.rejection = some e → Decides target (.ok status) (.error (.submission e))) ∧
    (s.items = [] → ∀ ops, ∀ e ∈ (s.run ops).events, ∀ later, e.operation = .waitFor later →
      later ≠ .submitted → e.answer = .info (.error (.submission (.streamEnded later)))) := by
  have hwait : s.wait target = await target s.items := wait_eq_await hs ht
  have hwaitFor := waitFor_eq_await hs ht
  refine ⟨fun before item after answer hitems hbefore hitem => ?_, fun hnone => ?_,
    exists_first_decisive, fun status e => decides_of_rejection,
    fun hitems ops e he later => answer_of_exhausted hitems hs he⟩
  · have hend := await_of_first_decisive after hbefore hitem
    rw [hwaitFor, hwait, hitems, hend]
    exact ⟨rfl, rfl, rfl, fun info => finalizedBy_eq_some_iff⟩
  · have hend := await_of_not_decisive hnone
    rw [hwaitFor, hwait, hend, hs]
    exact ⟨rfl, rfl⟩

/-- The finalized block after a rejection is left where it is. -/
theorem waitFor_first_decisive_replaced :
    ((new (.repeated 9) replaced).wait .inBlock).taken = [.ok .ready, .ok (.usurped (.repeated 8))] ∧
      ((new (.repeated 9) replaced).waitFor .inBlock).1 =
        .error (.submission (.usurped (.repeated 8))) ∧
      ((new (.repeated 9) replaced).waitFor .inBlock).2.items =
        [.ok (.finalized ⟨.repeated 2, .repeated 9⟩)] := by
  have hready : ¬ Decisive .inBlock (.ok .ready) := silent_iff_not_decisive.mp rfl
  have hbefore : ∀ i ∈ [(.ok .ready : Item)], ¬ Decisive .inBlock i := by simpa using hready
  have hspec := @waitFor_first_decisive (new (.repeated 9) replaced) .inBlock rfl (by decide)
  obtain ⟨htaken, hanswer, hleft, -⟩ :=
    hspec.1 [.ok .ready] _ [.ok (.finalized ⟨.repeated 2, .repeated 9⟩)] _ rfl hbefore (.usurped _)
  exact ⟨htaken, hanswer, hleft⟩

end Payout.StatusStream
