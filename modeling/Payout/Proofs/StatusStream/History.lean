import Payout.Proofs.StatusStream.Waiting

/-!
# Histories of a stream

A stream can be taken from item by item, emptied, asked for its transaction and waited on, in any order.
Every operation is recorded with its answer and the items that it took. Whatever the order, the items of a
stream are taken one after another and once each, and the stream remembers the one finalized block that was
met while waiting, from which every later wait for a block is answered.
-/
namespace Payout.StatusStream

inductive Operation where
  | next
  | drain
  | txHash
  | waitFor (target : Target)
deriving DecidableEq

/-- What an operation answers. -/
inductive Answer where
  | item (item : Option Item)
  | items (items : List Item)
  | hash (tx : TxHash)
  | info (result : Except Failure TxInfo)

/-- An operation that was carried out, its answer, and the items that it took off the stream. -/
structure Event where
  operation : Operation
  answer : Answer
  taken : List Item

/-- The event is a wait that took the finalized block. -/
def Event.Finds (e : Event) (info : TxInfo) : Prop :=
  (∃ target, e.operation = .waitFor target) ∧ .ok (.finalized info) ∈ e.taken

/-- What was done with a stream, in order, and the stream afterwards. -/
structure History where
  events : List Event
  stream : StatusStream

/-- All items that were taken, in the order of the operations. -/
def History.taken (h : History) : List Item :=
  h.events.flatMap Event.taken

/-- Carries out an operation. -/
def perform (s : StatusStream) : Operation → Event × StatusStream
  | .next => (⟨.next, .item s.next.1, s.next.1.toList⟩, s.next.2)
  | .drain => (⟨.drain, .items s.drain.1, s.drain.1⟩, s.drain.2)
  | .txHash => (⟨.txHash, .hash s.txHash, []⟩, s)
  | .waitFor target =>
    (⟨.waitFor target, .info (s.waitFor target).1, (s.wait target).taken⟩, (s.waitFor target).2)

/-- Carries out operations one after another. -/
def run (s : StatusStream) : List Operation → History
  | [] => ⟨[], s⟩
  | op :: ops =>
    let rest := (s.perform op).2.run ops
    ⟨(s.perform op).1 :: rest.events, rest.stream⟩

section Step

variable (s : StatusStream) (op : Operation)

@[simp] theorem perform_operation : (s.perform op).1.operation = op := by
  cases op <;> rfl

@[simp] theorem perform_txHash : (s.perform op).2.txHash = s.txHash := by
  cases op with
  | next => cases s with | mk tx finalized items => cases items <;> rfl
  | drain => rfl
  | txHash => rfl
  | waitFor target => rfl

/-- An operation takes items from the front of the stream and leaves the others as they are. -/
theorem perform_items : (s.perform op).1.taken ++ (s.perform op).2.items = s.items := by
  cases op with
  | next => cases s with | mk tx finalized items => cases items <;> rfl
  | drain => simp [perform, drain]
  | txHash => rfl
  | waitFor target => exact wait_items s target

/-- A wait finds the finalized block that it takes. -/
theorem wait_found_eq_some_iff {target : Target} {info : TxInfo} :
    (s.wait target).found = some info ↔ .ok (.finalized info) ∈ (s.wait target).taken := by
  unfold wait
  split
  · simp
  · split
    · simp
    · exact await_found_eq_some_iff

theorem wait_of_finalized {s : StatusStream} {target : Target} {info : TxInfo}
    (hs : s.finalized = some info) (ht : target ≠ .submitted) :
    s.wait target = ⟨.ok info, [], s.items, none⟩ := by
  cases target with
  | submitted => exact absurd rfl ht
  | inBlock | finalized => simp only [wait, hs]

/-- Nothing is taken by a wait of a stream that remembers a block. -/
theorem wait_taken_of_finalized {s : StatusStream} {target : Target} {info : TxInfo}
    (hs : s.finalized = some info) : (s.wait target).taken = [] := by
  cases target with
  | submitted => rfl
  | inBlock | finalized => rw [wait_of_finalized hs (by decide)]

theorem not_finds_of_finalized {s : StatusStream} {info : TxInfo} (hs : s.finalized = some info)
    (other : TxInfo) : ¬ (s.perform op).1.Finds other := by
  intro h
  obtain ⟨⟨target, ht⟩, hmem⟩ := h
  rw [perform_operation] at ht
  subst ht
  have hnone : (s.wait target).taken = [] := wait_taken_of_finalized hs
  simp only [perform, hnone, List.not_mem_nil] at hmem

/-- A block is remembered after an operation when it was before, or when the operation is a wait that took
it. -/
theorem perform_finalized_eq_some_iff {info : TxInfo} :
    (s.perform op).2.finalized = some info ↔
      s.finalized = some info ∨ (s.perform op).1.Finds info := by
  cases hs : s.finalized with
  | some known =>
    have hnot := not_finds_of_finalized op hs info
    have hkeep : (s.perform op).2.finalized = some known := by
      cases op with
      | next => cases s with | mk tx finalized items => cases items <;> exact hs
      | drain => exact hs
      | txHash => exact hs
      | waitFor target => simp only [perform, waitFor, hs]; rfl
    simp [hkeep, hnot]
  | none =>
    cases op with
    | next => cases s with | mk tx finalized items => cases items <;> simp_all [perform, next, Event.Finds]
    | drain => simp [perform, drain, Event.Finds, hs]
    | txHash => simp [perform, Event.Finds, hs]
    | waitFor target =>
      have hfound : (s.wait target).found = some info ↔ .ok (.finalized info) ∈ (s.wait target).taken :=
        wait_found_eq_some_iff s
      simpa [perform, waitFor, Event.Finds, hs] using hfound

end Step

section Run

variable (s : StatusStream) (ops : List Operation)

theorem run_operations : (s.run ops).events.map Event.operation = ops := by
  induction ops generalizing s with
  | nil => rfl
  | cons op ops ih => simp [run, ih]

theorem run_txHash : (s.run ops).stream.txHash = s.txHash := by
  induction ops generalizing s with
  | nil => rfl
  | cons op ops ih => simp [run, ih]

/-- Nothing is lost, doubled or moved: what was taken and what is left are the items that there were. -/
theorem run_taken_append_items :
    (s.run ops).taken ++ (s.run ops).stream.items = s.items := by
  induction ops generalizing s with
  | nil => rfl
  | cons op ops ih =>
    have hstep := perform_items s op
    have hrest := ih (s.perform op).2
    simp only [History.taken] at hrest
    simp only [run, History.taken, List.flatMap_cons, List.append_assoc, hrest, hstep]

theorem mem_items_iff_run {i : Item} :
    i ∈ s.items ↔ i ∈ (s.run ops).taken ∨ i ∈ (s.run ops).stream.items := by
  rw [← run_taken_append_items s ops, List.mem_append]

theorem run_finalized_eq_some_iff {info : TxInfo} :
    (s.run ops).stream.finalized = some info ↔
      s.finalized = some info ∨ ∃ e ∈ (s.run ops).events, e.Finds info := by
  induction ops generalizing s with
  | nil => simp [run]
  | cons op ops ih =>
    simp only [run, ih, perform_finalized_eq_some_iff, List.mem_cons, exists_eq_or_imp, or_assoc]

/-- An event of a run is an operation on the stream as the operations before it left it. -/
theorem exists_perform_of_mem {s : StatusStream} {ops : List Operation} {e : Event}
    (he : e ∈ (s.run ops).events) :
    ∃ earlier later, ops = earlier ++ e.operation :: later ∧
      e = ((s.run earlier).stream.perform e.operation).1 := by
  induction ops generalizing s with
  | nil => simp [run] at he
  | cons op ops ih =>
    simp only [run, List.mem_cons] at he
    rcases he with rfl | he
    · exact ⟨[], ops, by simp, by simp [run]⟩
    · obtain ⟨earlier, later, rfl, hearlier⟩ := ih he
      exact ⟨op :: earlier, later, rfl, hearlier⟩

theorem run_finalized_of_finalized {s : StatusStream} {info : TxInfo} (hs : s.finalized = some info) :
    (s.run ops).stream.finalized = some info :=
  (run_finalized_eq_some_iff s ops).mpr (.inl hs)

theorem not_finds_of_mem_run {s : StatusStream} {ops : List Operation} {info : TxInfo} {e : Event}
    (hs : s.finalized = some info) (he : e ∈ (s.run ops).events) (other : TxInfo) :
    ¬ e.Finds other := by
  obtain ⟨earlier, -, -, hearlier⟩ := exists_perform_of_mem he
  rw [hearlier]
  exact not_finds_of_finalized _ (run_finalized_of_finalized earlier hs) other

/-- No two events of a run are waits that took a finalized block. -/
theorem run_pairwise_finds :
    (s.run ops).events.Pairwise fun d e => ∀ i j, d.Finds i → ¬ e.Finds j := by
  induction ops generalizing s with
  | nil => exact .nil
  | cons op ops ih =>
    refine List.pairwise_cons.mpr ⟨fun e he i j hi => ?_, ih _⟩
    have hknown : (s.perform op).2.finalized = some i :=
      (perform_finalized_eq_some_iff s op).mpr (.inr hi)
    exact not_finds_of_mem_run hknown he j

end Run

/-- What a wait for a block answers was an item of the stream, even when it is answered from memory. -/
theorem mem_items_of_answer {tx : TxHash} {items : List Item} {ops : List Operation} {e : Event}
    {target : Target} {info : TxInfo} (he : e ∈ ((new tx items).run ops).events)
    (hop : e.operation = .waitFor target) (ht : target ≠ .submitted) (hinfo : e.answer = .info (.ok info)) :
    ∃ status : Status, .ok status ∈ items ∧ (status = .inBlock info ∨ status = .finalized info) := by
  obtain ⟨earlier, -, -, hearlier⟩ := exists_perform_of_mem he
  have hmem (i : Item) : i ∈ items ↔ _ := @mem_items_iff_run (new tx items) earlier i
  have hanswer : (((new tx items).run earlier).stream.wait target).answer = .ok info := by
    rw [hearlier, hop] at hinfo
    exact Answer.info.inj hinfo
  cases hknown : ((new tx items).run earlier).stream.finalized with
  | none =>
    rw [wait_eq_await hknown ht] at hanswer
    obtain ⟨before, item, after, hleft, -, hv⟩ := await_eq_ok_iff.mp hanswer
    have hitem : item ∈ items := (hmem item).mpr (.inr (by rw [hleft]; simp))
    rcases verdict_eq_ok_iff.mp hv with ⟨-, rfl⟩ | rfl
    · exact ⟨_, hitem, .inl rfl⟩
    · exact ⟨_, hitem, .inr rfl⟩
  | some known =>
    rw [wait_of_finalized hknown ht] at hanswer
    obtain rfl := Except.ok.inj hanswer
    -- A fresh stream remembers nothing, so an earlier wait took the block.
    rcases (run_finalized_eq_some_iff _ earlier).mp hknown with hfresh | ⟨d, hd, -, htaken⟩
    · cases hfresh
    · exact ⟨_, (hmem _).mpr (.inl (List.mem_flatMap.mpr ⟨d, hd, htaken⟩)), .inr rfl⟩

/-- What holds of a history of the stream of a transaction over some items. -/
structure History.Coherent (tx : TxHash) (items : List Item) (ops : List Operation) (h : History) :
    Prop where
  operations : h.events.map Event.operation = ops
  /-- What was taken, and then what is left, are the items of the stream. -/
  items : h.taken ++ h.stream.items = items
  txHash : h.stream.txHash = tx ∧ ∀ e ∈ h.events, e.operation = .txHash → e.answer = .hash tx
  /-- The block that is remembered is the one that a wait took. -/
  remembered : ∀ info, h.stream.finalized = some info ↔ ∃ e ∈ h.events, e.Finds info
  /-- At most one wait took a finalized block. -/
  once : h.events.Pairwise fun d e => ∀ i j, d.Finds i → ¬ e.Finds j
  /-- A block that is remembered is remembered for good, and answers every wait for a block. -/
  kept : ∀ info, h.stream.finalized = some info → ∀ more,
    (h.stream.run more).stream.finalized = some info ∧
      ∀ e ∈ (h.stream.run more).events, ∀ target, e.operation = .waitFor target →
        target ≠ .submitted → e.answer = .info (.ok info) ∧ e.taken = []
  submitted : ∀ e ∈ h.events, e.operation = .waitFor .submitted →
    e.answer = .info (.ok ⟨Bytes32.zero, tx⟩) ∧ e.taken = []

/-- Every history of a fresh stream is coherent, in whatever order the operations come. -/
theorem run_new_coherent (tx : TxHash) (items : List Item) (ops : List Operation) :
    ((new tx items).run ops).Coherent tx items ops where
  operations := run_operations _ ops
  items := run_taken_append_items _ ops
  txHash := by
    refine ⟨run_txHash _ ops, fun e he hop => ?_⟩
    obtain ⟨earlier, -, -, hearlier⟩ := exists_perform_of_mem he
    rw [hearlier, hop]
    exact congrArg Answer.hash (run_txHash (new tx items) earlier)
  remembered := fun info => by simpa [new] using run_finalized_eq_some_iff (new tx items) ops
  once := run_pairwise_finds _ ops
  kept := fun info hinfo more => by
    refine ⟨run_finalized_of_finalized more hinfo, fun e he target hop ht => ?_⟩
    obtain ⟨earlier, -, -, hearlier⟩ := exists_perform_of_mem he
    have hknown := run_finalized_of_finalized earlier hinfo
    have hwait := wait_of_finalized hknown ht
    rw [hearlier, hop]
    simp only [perform, waitFor, hwait, and_self]
  submitted := fun e he hop => by
    obtain ⟨earlier, -, -, hearlier⟩ := exists_perform_of_mem he
    have htx := run_txHash (new tx items) earlier
    rw [hearlier, hop]
    exact ⟨congrArg (fun tx => Answer.info (.ok ⟨Bytes32.zero, tx⟩)) htx, rfl⟩

end Payout.StatusStream
