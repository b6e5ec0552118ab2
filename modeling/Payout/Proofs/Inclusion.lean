import Payout.Inclusion
import Payout.Proofs.Outcome

/-!
# Confirmed inclusion

What has to hold of a block for an extrinsic to be confirmed in it: the node serves the block, the extrinsic
is in it, all events of the block can be read, and none of those of the extrinsic tells of a failure or of an
interrupted batch. The first event that cannot be read or tells of a failure stops the reading; what the events
of other extrinsics tell makes no difference.
-/
namespace Payout.Inclusion
open Metadata (EventError EventRecord Phase)

/-- The first extrinsic of a hash in a block is at a place. -/
def Places (c : Client) (block : BlockHash) (tx : TxHash) (i : Nat) : Prop :=
  ∃ bodies, c.node.bodies block = .ok (some bodies) ∧ position bodies tx = some i

/-- The node serves the events of a block, and these are their records. -/
def Records (c : Client) (block : BlockHash) (records : List EventRecord) : Prop :=
  ∃ bytes, c.node.events block = .ok bytes ∧
    EventRecord.readAll c.metadata bytes = records.map .ok

/-- The record tells that the extrinsic at a place failed. -/
def Fails (i : Nat) (r : EventRecord) : Prop :=
  r.phase = .applying i ∧ r.pallet = "System" ∧ r.event = "ExtrinsicFailed"

/-- The record tells that the extrinsic at a place is a batch that was not carried out to its end. -/
def Interrupts (i : Nat) (r : EventRecord) : Prop :=
  r.phase = .applying i ∧ r.pallet = "Utility" ∧ r.event = "BatchInterrupted"

/-- What reading the events of an extrinsic stops at, and the error that it stops with. -/
inductive Stops (m : Metadata) (i : Nat) : Except EventError EventRecord → ClientError → Prop
  | unreadable (e : EventError) : Stops m i (.error e) (.ofEvent e)
  | failed {r : EventRecord} (h : Fails i r) : Stops m i (.ok r) (failureOf m r)

/-- The event cannot be read, or belongs to a phase. -/
def matters (phase : Phase) : Except EventError EventRecord → Bool
  | .error _ => true
  | .ok r => r.phase = phase

/-- The outcome with the interruptions looked for among the events once more, where those that cannot be read
are passed over. -/
def rescan (m : Metadata) (block : BlockHash) (tx : TxHash) (phase : Phase)
    (events : List (Except EventError EventRecord)) : Except Failure TxInfo :=
  match checkEvents m phase events with
  | .error e => .error (.client e)
  | .ok _ =>
    if (events.filterMap Except.toOption).any (isInterruption phase) then
      .error (.submission (.batchInterrupted block))
    else .ok ⟨block, tx⟩

/-- The record is about the extrinsic at a place, and tells that it failed or that its batch was
interrupted. -/
def TellsOfFailure (i : Nat) (r : EventRecord) : Prop :=
  r.phase = .applying i ∧
    (r.pallet = "System" ∧ r.event = "ExtrinsicFailed" ∨
      r.pallet = "Utility" ∧ r.event = "BatchInterrupted")

theorem isOf_eq_true_iff {r : EventRecord} {pallet event : String} {phase : Phase} :
    r.isOf pallet event phase = true ↔ r.phase = phase ∧ r.pallet = pallet ∧ r.event = event := by
  simp [EventRecord.isOf, and_assoc]

theorem isFailure_eq_true_iff {i : Nat} {r : EventRecord} : isFailure (.applying i) r = true ↔ Fails i r :=
  isOf_eq_true_iff

theorem isFailure_eq_false_iff {i : Nat} {r : EventRecord} :
    isFailure (.applying i) r = false ↔ ¬ Fails i r := by
  rw [← isFailure_eq_true_iff, Bool.not_eq_true]

theorem isInterruption_eq_true_iff {i : Nat} {r : EventRecord} :
    isInterruption (.applying i) r = true ↔ Interrupts i r :=
  isOf_eq_true_iff

theorem tellsOfFailure_iff {i : Nat} {r : EventRecord} : TellsOfFailure i r ↔ Fails i r ∨ Interrupts i r :=
  and_or_left

/-- A block that has a place for an extrinsic contains it. -/
theorem Places.blockContains {c : Client} {block : BlockHash} {tx : TxHash} {i : Nat}
    (h : Places c block tx i) : c.blockContains block tx = .ok true := by
  obtain ⟨bodies, hbodies, hi⟩ := h
  have hany : (bodies.any fun body => Extrinsic.hashOfBody body = tx) = true := by
    rw [← List.findIdx?_isSome]
    exact Option.isSome_of_eq_some hi
  simp only [Client.blockContains, hbodies, hany]

section Outcome

variable {m : Metadata} {block : BlockHash} {tx : TxHash} {i : Nat}

/-- Events are records none of which tells of a failure, or one of them is the first that stops the reading. -/
theorem records_or_stop (m : Metadata) (i : Nat) (events : List (Except EventError EventRecord)) :
    (∃ records : List EventRecord, events = records.map .ok ∧ ∀ r ∈ records, ¬ Fails i r) ∨
      ∃ (before : List EventRecord) (event : Except EventError EventRecord)
        (after : List (Except EventError EventRecord)) (e : ClientError),
        events = before.map .ok ++ event :: after ∧ (∀ r ∈ before, ¬ Fails i r) ∧ Stops m i event e := by
  induction events with
  | nil => exact .inl ⟨[], rfl, by simp⟩
  | cons event rest ih =>
    cases event with
    | error e => exact .inr ⟨[], _, rest, _, rfl, by simp, .unreadable e⟩
    | ok r =>
      by_cases hr : Fails i r
      · exact .inr ⟨[], _, rest, _, rfl, by simp, .failed hr⟩
      · rcases ih with ⟨records, rfl, hrecords⟩ | ⟨before, event, after, e, rfl, hbefore, hstop⟩
        · exact .inl ⟨r :: records, rfl, List.forall_mem_cons.mpr ⟨hr, hrecords⟩⟩
        · exact .inr ⟨r :: before, event, after, e, rfl, List.forall_mem_cons.mpr ⟨hr, hbefore⟩, hstop⟩

/-- Records that tell of no failure are read up to whatever follows them. -/
theorem checkEvents_append {records : List EventRecord} (h : ∀ r ∈ records, ¬ Fails i r)
    (rest : List (Except EventError EventRecord)) :
    checkEvents m (.applying i) (records.map .ok ++ rest) =
      (checkEvents m (.applying i) rest).map (records ++ ·) := by
  induction records with
  | nil => cases h : checkEvents m (.applying i) rest <;> simp [h, Except.map]
  | cons r records ih =>
    obtain ⟨hr, hrecords⟩ := List.forall_mem_cons.mp h
    have hnofail : isFailure (.applying i) r = false := isFailure_eq_false_iff.mpr hr
    have hlater := ih hrecords
    simp only [List.map_cons, List.cons_append, checkEvents, hnofail, Bool.false_eq_true, if_false, hlater]
    cases checkEvents m (.applying i) rest <;> rfl

theorem checkEvents_of_records {records : List EventRecord} (h : ∀ r ∈ records, ¬ Fails i r) :
    checkEvents m (.applying i) (records.map .ok) = .ok records := by
  have hread := checkEvents_append (m := m) h []
  simpa [checkEvents, Except.map] using hread

theorem checkEvents_of_stop {before : List EventRecord} {event : Except EventError EventRecord}
    (after : List (Except EventError EventRecord)) {e : ClientError} (hbefore : ∀ r ∈ before, ¬ Fails i r)
    (hstop : Stops m i event e) :
    checkEvents m (.applying i) (before.map .ok ++ event :: after) = .error e := by
  rw [checkEvents_append hbefore]
  cases hstop with
  | unreadable e => rfl
  | failed hr => simp only [checkEvents, isFailure_eq_true_iff.mpr hr, if_true, Except.map]

theorem any_isInterruption_iff {records : List EventRecord} :
    records.any (isInterruption (.applying i)) = true ↔ ∃ r ∈ records, Interrupts i r := by
  simp only [List.any_eq_true, isInterruption_eq_true_iff]

/-- Events that can all be read and tell of no failure tell of an interruption, or of success. -/
theorem outcome_of_records {records : List EventRecord} (h : ∀ r ∈ records, ¬ Fails i r) :
    outcome m block tx (.applying i) (records.map .ok) =
      if records.any (isInterruption (.applying i)) then .error (.submission (.batchInterrupted block))
      else .ok ⟨block, tx⟩ := by
  simp only [outcome, checkEvents_of_records h]

theorem outcome_of_stop {before : List EventRecord} {event : Except EventError EventRecord}
    (after : List (Except EventError EventRecord)) {e : ClientError} (hbefore : ∀ r ∈ before, ¬ Fails i r)
    (hstop : Stops m i event e) :
    outcome m block tx (.applying i) (before.map .ok ++ event :: after) = .error (.client e) := by
  simp only [outcome, checkEvents_of_stop after hbefore hstop]

theorem outcome_eq_ok_iff {events : List (Except EventError EventRecord)} {info : TxInfo} :
    outcome m block tx (.applying i) events = .ok info ↔
      info = ⟨block, tx⟩ ∧ ∃ records : List EventRecord,
        events = records.map .ok ∧ ∀ r ∈ records, ¬ TellsOfFailure i r := by
  simp only [tellsOfFailure_iff, not_or]
  constructor
  · intro h
    rcases records_or_stop m i events with ⟨records, rfl, hrecords⟩ | ⟨before, event, after, e, rfl, hb, hs⟩
    · rw [outcome_of_records hrecords] at h
      split at h
      · cases h
      · rename_i hany
        have hnone : ∀ r ∈ records, ¬ Interrupts i r := by
          simpa only [any_isInterruption_iff, not_exists, not_and] using hany
        exact ⟨(Except.ok.inj h).symm, records, rfl, fun r hr => ⟨hrecords r hr, hnone r hr⟩⟩
    · rw [outcome_of_stop after hb hs] at h
      cases h
  · intro h
    obtain ⟨rfl, records, rfl, hnone⟩ := h
    have hany : ¬ records.any (isInterruption (.applying i)) = true := by
      simp only [any_isInterruption_iff, not_exists, not_and]
      exact fun r hr => (hnone r hr).2
    rw [outcome_of_records fun r hr => (hnone r hr).1, if_neg hany]

theorem outcome_eq_interrupted_iff {events : List (Except EventError EventRecord)} {b : BlockHash} :
    outcome m block tx (.applying i) events = .error (.submission (.batchInterrupted b)) ↔
      b = block ∧ ∃ records : List EventRecord, events = records.map .ok ∧
        (∀ r ∈ records, ¬ Fails i r) ∧ ∃ r ∈ records, Interrupts i r := by
  constructor
  · intro h
    rcases records_or_stop m i events with ⟨records, rfl, hrecords⟩ | ⟨before, event, after, e, rfl, hb, hs⟩
    · rw [outcome_of_records hrecords] at h
      split at h
      · rename_i hany
        obtain rfl : block = b := by simpa using h
        exact ⟨rfl, records, rfl, hrecords, any_isInterruption_iff.mp hany⟩
      · cases h
    · rw [outcome_of_stop after hb hs] at h
      cases h
  · intro h
    obtain ⟨rfl, records, rfl, hrecords, hsome⟩ := h
    rw [outcome_of_records hrecords, if_pos (any_isInterruption_iff.mpr hsome)]

/-- Passing over events that cannot be read hides none: they have stopped the reading before. -/
theorem outcome_eq_rescan (events : List (Except EventError EventRecord)) :
    outcome m block tx (.applying i) events = rescan m block tx (.applying i) events := by
  rcases records_or_stop m i events with ⟨records, rfl, hrecords⟩ | ⟨before, event, after, e, rfl, hb, hs⟩
  · have hread : (records.map (Except.ok (ε := EventError))).filterMap Except.toOption = records := by
      simp [List.filterMap_map, Function.comp_def, Except.toOption]
    rw [outcome_of_records hrecords, rescan, checkEvents_of_records hrecords, hread]
  · rw [outcome_of_stop after hb hs, rescan, checkEvents_of_stop after hb hs]

theorem Stops.matters {event : Except EventError EventRecord} {e : ClientError} (h : Stops m i event e) :
    matters (.applying i) event = true := by
  cases h with
  | unreadable e => rfl
  | failed hr => simp [Inclusion.matters, hr.1]

/-- The events of other phases make no difference, as long as they can be read. -/
theorem outcome_filter_matters (events : List (Except EventError EventRecord)) :
    outcome m block tx (.applying i) (events.filter (matters (.applying i))) =
      outcome m block tx (.applying i) events := by
  have hmap (records : List EventRecord) : (records.map .ok).filter (matters (.applying i)) =
      (records.filter fun r => r.phase = .applying i).map .ok := by
    simp [List.filter_map, Function.comp_def, matters]
  have hkept {records : List EventRecord} (h : ∀ r ∈ records, ¬ Fails i r) :
      ∀ r ∈ records.filter fun r => r.phase = .applying i, ¬ Fails i r := fun r hr =>
    h r (List.mem_filter.mp hr).1
  rcases records_or_stop m i events with ⟨records, rfl, hrecords⟩ | ⟨before, event, after, e, rfl, hb, hs⟩
  · have hany : (records.filter fun r => r.phase = .applying i).any (isInterruption (.applying i)) =
        records.any (isInterruption (.applying i)) := by
      rw [Bool.eq_iff_iff, any_isInterruption_iff, any_isInterruption_iff]
      simp only [List.mem_filter, decide_eq_true_eq, and_assoc]
      exact exists_congr fun r => and_congr_right fun _ => ⟨And.right, fun hr => ⟨hr.1, hr⟩⟩
    rw [hmap, outcome_of_records hrecords, outcome_of_records (hkept hrecords), hany]
  · rw [List.filter_append, hmap, List.filter_cons_of_pos hs.matters, outcome_of_stop after hb hs]
    exact outcome_of_stop _ (hkept hb) hs

end Outcome

section Confirm

variable {c : Client} {block : BlockHash} {tx : TxHash}

theorem confirm_eq_outcome {i : Nat} {bytes : Bytes} (hplace : Places c block tx i)
    (hevents : c.node.events block = .ok bytes) :
    confirm c block tx =
      outcome c.metadata block tx (.applying i) (EventRecord.readAll c.metadata bytes) := by
  obtain ⟨bodies, hbodies, hi⟩ := hplace
  simp only [confirm, hbodies, Option.bind_some, hi, hevents]

/-- Without the extrinsic, or without the events of the block, there is nothing to confirm. -/
theorem confirm_eq_client_or_placed (c : Client) (block : BlockHash) (tx : TxHash) :
    (∃ e, confirm c block tx = .error (.client e)) ∨
      ∃ i bytes, Places c block tx i ∧ c.node.events block = .ok bytes := by
  cases hbodies : c.node.bodies block with
  | error e => exact .inl ⟨e, by simp only [confirm, hbodies]⟩
  | ok bodies =>
    cases hi : bodies.bind (position · tx) with
    | none => exact .inl ⟨.blockNotFound, by simp only [confirm, hbodies, hi]⟩
    | some i =>
      obtain ⟨served, rfl, hplace⟩ := Option.bind_eq_some_iff.mp hi
      cases hevents : c.node.events block with
      | error e => exact .inl ⟨e, by simp only [confirm, hbodies, hi, hevents]⟩
      | ok bytes => exact .inr ⟨i, bytes, ⟨served, hbodies, hplace⟩, rfl⟩

/-- An answer that is no failure of the client is told by the events of the block. -/
theorem confirm_eq_iff_outcome {answer : Except Failure TxInfo} (hanswer : ∀ e, answer ≠ .error (.client e)) :
    confirm c block tx = answer ↔ ∃ i bytes, Places c block tx i ∧ c.node.events block = .ok bytes ∧
      outcome c.metadata block tx (.applying i) (EventRecord.readAll c.metadata bytes) = answer := by
  constructor
  · intro h
    rcases confirm_eq_client_or_placed c block tx with ⟨e, he⟩ | ⟨i, bytes, hplace, hevents⟩
    · exact absurd (h.symm.trans he) (hanswer e)
    · rw [confirm_eq_outcome hplace hevents] at h
      exact ⟨i, bytes, hplace, hevents, h⟩
  · intro h
    obtain ⟨i, bytes, hplace, hevents, h⟩ := h
    rwa [confirm_eq_outcome hplace hevents]

/-- An extrinsic is confirmed in a block exactly when it is there and no event of it tells of a failure. -/
theorem confirm_eq_ok_iff {info : TxInfo} :
    confirm c block tx = .ok info ↔
      info = ⟨block, tx⟩ ∧ ∃ i records, Places c block tx i ∧ Records c block records ∧
        ∀ r ∈ records, ¬ TellsOfFailure i r := by
  have hanswer (e : ClientError) : (.ok info : Except Failure TxInfo) ≠ .error (.client e) := nofun
  rw [confirm_eq_iff_outcome hanswer]
  simp only [outcome_eq_ok_iff]
  constructor
  · intro h
    obtain ⟨i, bytes, hplace, hevents, hinfo, records, hread, hnone⟩ := h
    exact ⟨hinfo, i, records, hplace, ⟨bytes, hevents, hread⟩, hnone⟩
  · intro h
    obtain ⟨hinfo, i, records, hplace, ⟨bytes, hevents, hread⟩, hnone⟩ := h
    exact ⟨i, bytes, hplace, hevents, hinfo, records, hread, hnone⟩

/-- A batch is found interrupted exactly when it is in the block and did not fail as a whole, but some event of
it tells of the interruption. -/
theorem confirm_eq_interrupted_iff {b : BlockHash} :
    confirm c block tx = .error (.submission (.batchInterrupted b)) ↔
      b = block ∧ ∃ i records, Places c block tx i ∧ Records c block records ∧
        (∀ r ∈ records, ¬ Fails i r) ∧ ∃ r ∈ records, Interrupts i r := by
  have hanswer (e : ClientError) :
      (.error (.submission (.batchInterrupted b)) : Except Failure TxInfo) ≠ .error (.client e) := nofun
  rw [confirm_eq_iff_outcome hanswer]
  simp only [outcome_eq_interrupted_iff]
  constructor
  · intro h
    obtain ⟨i, bytes, hplace, hevents, hblock, records, hread, hrest⟩ := h
    exact ⟨hblock, i, records, hplace, ⟨bytes, hevents, hread⟩, hrest⟩
  · intro h
    obtain ⟨hblock, i, records, hplace, ⟨bytes, hevents, hread⟩, hrest⟩ := h
    exact ⟨i, bytes, hplace, hevents, hblock, records, hread, hrest⟩

end Confirm
end Payout.Inclusion
