import Payout.Proofs.Submission

/-!
# Confirmation of reports

A report that the extrinsic is in a block becomes a status of inclusion exactly when the batch took effect there.
The events of the block decide: the first that cannot be read, or that tells of a failure of the extrinsic, is
the answer, whatever else is told; after that an interruption of the batch is, wherever it stands. Events of
other extrinsics are of no consequence.
-/
namespace Payout
open Inclusion (Fails Interrupts Places Records Stops confirm matters rescan)
open Metadata (EventError EventRecord Profile)

/-- The report tells that the extrinsic is in a block, and the status that it becomes when that is confirmed. -/
inductive Notification.Includes (block : BlockHash) : Notification → (TxInfo → Status) → Prop
  | inBlock : Includes block (.inBlock block) .inBlock
  | finalized : Includes block (.finalized block) .finalized

namespace Inclusion

/-- The extrinsic has a place in the block, all events of the block can be read, and these are their records,
none of which tells that the extrinsic failed. -/
def Carried (c : Client) (block : BlockHash) (tx : TxHash) (i : Nat) (records : List EventRecord) : Prop :=
  Places c block tx i ∧ Records c block records ∧ ∀ r ∈ records, ¬ Fails i r

section Events

variable {c : Client} {block : BlockHash} {tx : TxHash} {i : Nat} {bytes : Bytes}

theorem confirm_eq_ok_iff_carried {info : TxInfo} :
    confirm c block tx = .ok info ↔ info = ⟨block, tx⟩ ∧
      ∃ i records, Carried c block tx i records ∧ ∀ r ∈ records, ¬ Interrupts i r := by
  simp only [confirm_eq_ok_iff, tellsOfFailure_iff, not_or, forall_and, Carried, and_assoc]

theorem confirm_eq_interrupted_iff_carried {b : BlockHash} :
    confirm c block tx = .error (.submission (.batchInterrupted b)) ↔ b = block ∧
      ∃ i records, Carried c block tx i records ∧ ∃ r ∈ records, Interrupts i r := by
  simp only [confirm_eq_interrupted_iff, Carried, and_assoc]

/-- The first event that stops the reading is the answer. -/
theorem confirm_of_first_stop (hplace : Places c block tx i) (hevents : c.node.events block = .ok bytes)
    {before : List EventRecord} {event : Except EventError EventRecord}
    {after : List (Except EventError EventRecord)} {e : ClientError}
    (hread : EventRecord.readAll c.metadata bytes = before.map .ok ++ event :: after)
    (hbefore : ∀ r ∈ before, ¬ Fails i r) (hstop : Stops c.metadata i event e) :
    confirm c block tx = .error (.client e) := by
  rw [confirm_eq_outcome hplace hevents, hread]
  exact outcome_of_stop after hbefore hstop

/-- An event that stops the reading is never passed over, wherever it stands. -/
theorem confirm_of_stop (hplace : Places c block tx i) (hevents : c.node.events block = .ok bytes)
    {event : Except EventError EventRecord} {e : ClientError}
    (hmem : event ∈ EventRecord.readAll c.metadata bytes) (hstop : Stops c.metadata i event e) :
    ∃ first, confirm c block tx = .error (.client first) := by
  rcases records_or_stop c.metadata i (EventRecord.readAll c.metadata bytes) with
    ⟨records, hread, hrecords⟩ | ⟨before, stop, after, first, hread, hbefore, hfirst⟩
  · rw [hread] at hmem
    obtain ⟨r, hr, rfl⟩ := List.mem_map.mp hmem
    cases hstop with
    | failed hfails => exact absurd hfails (hrecords r hr)
  · exact ⟨first, confirm_of_first_stop hplace hevents hread hbefore hfirst⟩

/-- Two nodes whose blocks differ only in what can be read about other extrinsics give the same answer. -/
theorem confirm_congr {other : Client} {others : Bytes} (hplace : Places c block tx i)
    (hevents : c.node.events block = .ok bytes) (hmetadata : other.metadata = c.metadata)
    (hbodies : other.node.bodies block = c.node.bodies block)
    (hothers : other.node.events block = .ok others)
    (hsame : (EventRecord.readAll c.metadata others).filter (matters (.applying i)) =
      (EventRecord.readAll c.metadata bytes).filter (matters (.applying i))) :
    confirm other block tx = confirm c block tx := by
  have hplaceOther : Places other block tx i := by
    obtain ⟨bodies, hserved, hi⟩ := hplace
    exact ⟨bodies, hbodies.trans hserved, hi⟩
  rw [confirm_eq_outcome hplace hevents, confirm_eq_outcome hplaceOther hothers, hmetadata,
    ← outcome_filter_matters, hsame, outcome_filter_matters]

end Events

/-- The events of the pair when it was interrupted, before which another extrinsic failed. -/
def interruptedBlock : Block :=
  { Batch.pairBlock with
    state := .ok ⟨[8, 0, 1, 0, 0, 0, 0, 1, 0, 0, 0, 0, 0, 0, 0, 26, 0, 1, 0, 0, 0, 0, 0], []⟩ }

/-- What these events tell. -/
def interruptedRecords : List EventRecord :=
  [⟨.applying 1, "System", "ExtrinsicFailed", [.call "Other" []]⟩,
    ⟨.applying 0, "Utility", "BatchInterrupted", [.unsigned 1, .call "Other" []]⟩]

/-- A client of a node that knows the block in which the pair was interrupted. -/
def interruptedClient : Client :=
  { Batch.pairClient with
    node := { Batch.pairClient.node with blocks := [(.repeated 7, interruptedBlock)] } }

end Inclusion
end Payout
