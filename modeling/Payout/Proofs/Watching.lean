import Mathlib.Data.List.Forall2
import Mathlib.Logic.Function.Basic
import Payout.Proofs.Confirmation

/-!
# Watching a submission

The stream of a submission has one item for each report of the node, in the same order, up to the report after
which nothing is told. Reports of inclusion are confirmed each for itself: an item that is an error moves no other
item, whatever the node would have answered instead, and a wait goes on behind it.
-/
namespace Payout
open Inclusion (Fails Interrupts Places Records confirm)

namespace Notification

/-- What a report is for the extrinsic of a hash. -/
inductive Tells (c : Client) (tx : TxHash) : Notification → Item → Prop
  | future : Tells c tx .future (.ok .future)
  | ready : Tells c tx .ready (.ok .ready)
  | broadcast (peers : List String) : Tells c tx (.broadcast peers) (.ok (.broadcast peers.length))
  | retracted (block : BlockHash) : Tells c tx (.retracted block) (.ok (.retracted block))
  | finalityTimeout (block : BlockHash) : Tells c tx (.finalityTimeout block) (.ok (.finalityTimeout block))
  | usurped (other : TxHash) : Tells c tx (.usurped other) (.ok (.usurped other))
  | dropped : Tells c tx .dropped (.ok .dropped)
  | invalid : Tells c tx .invalid (.ok .invalid)
  | unreadable : Tells c tx .unreadable (.error (.client .serialization))
  | inBlock {block : BlockHash} (h : confirm c block tx = .ok ⟨block, tx⟩) :
    Tells c tx (.inBlock block) (.ok (.inBlock ⟨block, tx⟩))
  | finalized {block : BlockHash} (h : confirm c block tx = .ok ⟨block, tx⟩) :
    Tells c tx (.finalized block) (.ok (.finalized ⟨block, tx⟩))
  | unconfirmed {n : Notification} {block : BlockHash} {wrap : TxInfo → Status} {e : Failure}
      (hn : Includes block n wrap) (h : confirm c block tx = .error e) : Tells c tx n (.error e)

section Items

variable {c : Client} {tx : TxHash} {n : Notification} {item : Item}

theorem tells_item (c : Client) (tx : TxHash) (n : Notification) : Tells c tx n (n.item c tx) := by
  have hincluded {block : BlockHash} {wrap : TxInfo → Status} (hn : Includes block n wrap)
      (hok : confirm c block tx = .ok ⟨block, tx⟩ → Tells c tx n (.ok (wrap ⟨block, tx⟩))) :
      Tells c tx n ((confirm c block tx).map wrap) := by
    cases h : confirm c block tx with
    | ok info =>
      obtain rfl : info = ⟨block, tx⟩ := (Inclusion.confirm_eq_ok_iff.mp h).1
      exact hok h
    | error e => exact .unconfirmed hn h
  cases n with
  | future => exact .future
  | ready => exact .ready
  | broadcast peers => exact .broadcast peers
  | inBlock block => exact hincluded .inBlock .inBlock
  | retracted block => exact .retracted block
  | finalityTimeout block => exact .finalityTimeout block
  | finalized block => exact hincluded .finalized .finalized
  | usurped other => exact .usurped other
  | dropped => exact .dropped
  | invalid => exact .invalid
  | unreadable => exact .unreadable

/-- A report is only one thing. -/
theorem Tells.result (h : Tells c tx n item) : item = n.item c tx := by
  cases h with
  | inBlock h => simp only [Notification.item, h]; rfl
  | finalized h => simp only [Notification.item, h]; rfl
  | unconfirmed hn h => cases hn <;> simp only [Notification.item, h] <;> rfl
  | _ => rfl

end Items

section Cut

theorem upToLast_append {before : List Notification} (h : ∀ n ∈ before, n.isLast = false)
    (rest : List Notification) : upToLast (before ++ rest) = before ++ upToLast rest := by
  induction before with
  | nil => rfl
  | cons n before ih =>
    obtain ⟨hn, hbefore⟩ := List.forall_mem_cons.mp h
    simp only [List.cons_append, upToLast, hn, Bool.false_eq_true, if_false, ih hbefore]

/-- Reports go on for good, or there is a first after which nothing is told. -/
theorem goes_on_or_ends (reports : List Notification) :
    (∀ n ∈ reports, n.isLast = false) ∨
      ∃ before n after, reports = before ++ n :: after ∧ (∀ m ∈ before, m.isLast = false) ∧
        n.isLast = true := by
  induction reports with
  | nil => exact .inl (by simp)
  | cons n reports ih =>
    cases hn : n.isLast with
    | true => exact .inr ⟨[], n, reports, rfl, by simp, hn⟩
    | false =>
      rcases ih with hreports | ⟨before, last, after, rfl, hbefore, hlast⟩
      · exact .inl (List.forall_mem_cons.mpr ⟨hn, hreports⟩)
      · exact .inr ⟨n :: before, last, after, rfl, List.forall_mem_cons.mpr ⟨hn, hbefore⟩, hlast⟩

theorem upToLast_of_goes_on {reports : List Notification} (h : ∀ n ∈ reports, n.isLast = false) :
    upToLast reports = reports := by
  simpa [upToLast] using upToLast_append h []

theorem upToLast_of_ends {before : List Notification} {n : Notification} (after : List Notification)
    (h : ∀ m ∈ before, m.isLast = false) (hn : n.isLast = true) :
    upToLast (before ++ n :: after) = before ++ [n] := by
  rw [upToLast_append h]
  simp only [upToLast, hn, if_true]

/-- Only the last report of all can be one after which nothing is told. -/
theorem isLast_of_front {reports front rest : List Notification} (h : upToLast reports = front ++ rest)
    (hrest : rest ≠ []) : ∀ n ∈ front, n.isLast = false := by
  rcases goes_on_or_ends reports with hreports | ⟨before, last, after, rfl, hbefore, hlast⟩
  · rw [upToLast_of_goes_on hreports] at h
    intro n hn
    exact hreports n (by simp [h, hn])
  · rw [upToLast_of_ends after hbefore hlast] at h
    have hfront : before = front ++ rest.dropLast := by
      rw [← List.dropLast_append_of_ne_nil hrest, ← h, List.dropLast_concat]
    intro n hn
    exact hbefore n (by simp [hfront, hn])

end Cut

/-- The report tells that the extrinsic is under way, and nothing else. -/
def isProgress : Notification → Bool
  | future | ready | broadcast _ | retracted _ => true
  | _ => false

theorem silent_item {c : Client} {tx : TxHash} {n : Notification} (h : n.isProgress = true) :
    StatusStream.Silent .inBlock (n.item c tx) := by
  cases n with
  | future | ready | broadcast _ | retracted _ => rfl
  | _ => cases h

end Notification

namespace StatusStream
open Notification

variable {c : Client} {tx : TxHash} {reports : List Notification}

/-- The stream of a submission to a node that may change: the report of each place is confirmed with a client of
its own. -/
def watchChanging (clients : ℕ → Client) (tx : TxHash) (reports : List Notification) : StatusStream :=
  .new tx ((upToLast reports).mapIdx fun k n => n.item (clients k) tx)

theorem watchChanging_const (c : Client) (tx : TxHash) (reports : List Notification) :
    watchChanging (fun _ => c) tx reports = watch c tx reports := by
  have hitems : (upToLast reports).mapIdx (fun _ n => n.item c tx) = (upToLast reports).map (item c tx) := by
    apply List.ext_getElem?
    simp
  simp only [watchChanging, watch, hitems]

/-- An item depends on the node only as it is when the report of its place is confirmed. -/
theorem watchChanging_update (clients : ℕ → Client) (k : ℕ) (other : Client) :
    (watchChanging (Function.update clients k other) tx reports).items.length =
        (watchChanging clients tx reports).items.length ∧
      ∀ j, j ≠ k → (watchChanging (Function.update clients k other) tx reports).items[j]? =
        (watchChanging clients tx reports).items[j]? := by
  constructor
  · simp only [watchChanging, new, List.length_mapIdx]
  · intro j hj
    simp only [watchChanging, new, List.getElem?_mapIdx, Function.update_of_ne hj]

theorem watch_tells (c : Client) (tx : TxHash) (reports : List Notification) :
    List.Forall₂ (Tells c tx) (upToLast reports) (watch c tx reports).items :=
  List.forall₂_map_right_iff.mpr (List.forall₂_same.mpr fun n _ => tells_item c tx n)

/-- A finalized block is the last that is told, so that nothing is remembered while items are left. -/
theorem finalized_eq_none_of_left {ops : List Operation}
    (hleft : ((watch c tx reports).run ops).stream.items ≠ []) :
    ((watch c tx reports).run ops).stream.finalized = none := by
  rw [Option.eq_none_iff_forall_ne_some]
  intro info hknown
  -- The block was taken from the items, so that its report stands in front of others, and yet is the last.
  have hall := run_taken_append_items (watch c tx reports) ops
  obtain ⟨front, rest, hreports, hfront, hrest⟩ := List.map_eq_append_iff.mp hall.symm
  have hne : rest ≠ [] := fun h => hleft (by rw [← hrest, h]; rfl)
  rcases (run_finalized_eq_some_iff _ ops).mp hknown with hfresh | ⟨e, he, -, htaken⟩
  · cases hfresh
  · have hmem : .ok (.finalized info) ∈ front.map (item c tx) := by
      rw [hfront]
      exact List.mem_flatMap.mpr ⟨e, he, htaken⟩
    obtain ⟨n, hn, hitem⟩ := List.mem_map.mp hmem
    have hlast := isLast_of_front hreports hne n hn
    have htells := tells_item c tx n
    rw [hitem] at htells
    cases htells
    cases hlast

theorem waitFor_of_reports {s : StatusStream} {before after : List Notification} {n : Notification}
    {answer : Except Failure TxInfo} (hs : s.finalized = none)
    (hitems : s.items = (before ++ n :: after).map (item c tx)) (hbefore : ∀ r ∈ before, r.isProgress = true)
    (hn : verdict .inBlock (n.item c tx) = some answer) :
    s.waitFor .inBlock = (answer, ⟨s.txHash, finalizedBy (n.item c tx), after.map (item c tx)⟩) := by
  have hsilent : ∀ i ∈ before.map (item c tx), Silent .inBlock i := by
    intro i hi
    obtain ⟨r, hr, rfl⟩ := List.mem_map.mp hi
    exact silent_item (hbefore r hr)
  rw [List.map_append, List.map_cons] at hitems
  rw [waitFor_eq_await hs (by decide), hitems, await_of_decisive _ hsilent hn]

/-- After a report that could not be confirmed or understood, a wait goes on behind it. -/
theorem waitFor_after_failure {ops : List Operation} {before between after : List Notification}
    {n m : Notification} {e : Failure} {block : BlockHash} {wrap : TxInfo → Status}
    (hleft : ((watch c tx reports).run ops).stream.items =
      (before ++ n :: (between ++ m :: after)).map (item c tx))
    (hprogress : ∀ r ∈ before ++ between, r.isProgress = true) (hn : Tells c tx n (.error e))
    (hm : Includes block m wrap) (hconfirmed : confirm c block tx = .ok ⟨block, tx⟩) :
    (((watch c tx reports).run ops).stream.waitFor .inBlock).1 = .error e ∧
      ((((watch c tx reports).run ops).stream.waitFor .inBlock).2.waitFor .inBlock).1 = .ok ⟨block, tx⟩ ∧
      ((((watch c tx reports).run ops).stream.waitFor .inBlock).2.waitFor .inBlock).2.items =
        after.map (item c tx) := by
  have hne : ((watch c tx reports).run ops).stream.items ≠ [] := by
    rw [hleft]
    simp
  have hfailed : verdict .inBlock (n.item c tx) = some (.error e) := by
    rw [← hn.result]
    rfl
  have hincluded : verdict .inBlock (m.item c tx) = some (.ok ⟨block, tx⟩) := by
    cases hm <;> simp only [item, hconfirmed] <;> rfl
  have hbefore : ∀ r ∈ before, r.isProgress = true := fun r hr => hprogress r (by simp [hr])
  have hbetween : ∀ r ∈ between, r.isProgress = true := fun r hr => hprogress r (by simp [hr])
  have hfirst : ((watch c tx reports).run ops).stream.waitFor .inBlock =
      (.error e, new tx ((between ++ m :: after).map (item c tx))) := by
    rw [waitFor_of_reports (finalized_eq_none_of_left hne) hleft hbefore hfailed, ← hn.result, run_txHash]
    rfl
  have hsecond : (new tx ((between ++ m :: after).map (item c tx))).waitFor .inBlock =
      (.ok ⟨block, tx⟩, ⟨tx, finalizedBy (m.item c tx), after.map (item c tx)⟩) :=
    waitFor_of_reports rfl rfl hbetween hincluded
  rw [hfirst, hsecond]
  exact ⟨rfl, rfl, rfl⟩

/-- The stream of a submission mirrors what the node reports. It has one item for each report up to the last, in
the same order, which tells what the report tells, or the failure to confirm it. The confirmation of one report
changes the item of that report and no other, whichever way it turns out; and after a failure, a wait that met it
is followed by one that finds the inclusion reported later. -/
theorem watch_mirrors_reports (c : Client) (tx : TxHash) (reports : List Notification) :
    (watch c tx reports).txHash = tx ∧
    ((∀ n ∈ reports, n.isLast = false) ∧ upToLast reports = reports ∨
      ∃ before n after, reports = before ++ n :: after ∧ (∀ m ∈ before, m.isLast = false) ∧
        n.isLast = true ∧ upToLast reports = before ++ [n]) ∧
    List.Forall₂ (Tells c tx) (upToLast reports) (watch c tx reports).items ∧
    (∀ k other,
      (watchChanging (Function.update (fun _ => c) k other) tx reports).items.length =
          (watch c tx reports).items.length ∧
        ∀ j, j ≠ k → (watchChanging (Function.update (fun _ => c) k other) tx reports).items[j]? =
          (watch c tx reports).items[j]?) ∧
    ∀ ops before n between m after e block wrap,
      ((watch c tx reports).run ops).stream.items =
          (before ++ n :: (between ++ m :: after)).map (item c tx) →
      (∀ r ∈ before ++ between, r.isProgress = true) → Tells c tx n (.error e) →
      Includes block m wrap → confirm c block tx = .ok ⟨block, tx⟩ →
        (((watch c tx reports).run ops).stream.waitFor .inBlock).1 = .error e ∧
        ((((watch c tx reports).run ops).stream.waitFor .inBlock).2.waitFor .inBlock).1 = .ok ⟨block, tx⟩ ∧
        ((((watch c tx reports).run ops).stream.waitFor .inBlock).2.waitFor .inBlock).2.items =
          after.map (item c tx) := by
  refine ⟨rfl, ?_, watch_tells c tx reports, fun k other => ?_, ?_⟩
  · rcases goes_on_or_ends reports with hreports | ⟨before, n, after, rfl, hbefore, hn⟩
    · exact .inl ⟨hreports, upToLast_of_goes_on hreports⟩
    · exact .inr ⟨before, n, after, rfl, hbefore, hn, upToLast_of_ends after hbefore hn⟩
  · rw [← watchChanging_const c tx reports]
    exact watchChanging_update _ k other
  · intro ops before n between m after e block wrap hleft hprogress hn hm hconfirmed
    exact waitFor_after_failure hleft hprogress hn hm hconfirmed

/-- A client of a node that knows a block in which the pair was interrupted, and another in which it was not. -/
def reorganizedClient : Client :=
  { Batch.pairClient with
    node := { Batch.pairClient.node with
      blocks := [(.repeated 7, Inclusion.interruptedBlock), (.repeated 8, Batch.pairBlock)] } }

/-- The pair leaves the block in which it was interrupted, and is final in the other. -/
def reorganized : List Notification :=
  [.broadcast ["a", "b"], .inBlock (.repeated 7), .retracted (.repeated 7), .inBlock (.repeated 8),
    .finalized (.repeated 8)]

theorem watch_mirrors_reports_reorganized :
    ((watch reorganizedClient Batch.pairExtrinsic.hash reorganized).waitFor .inBlock).1 =
        .error (.submission (.batchInterrupted (.repeated 7))) ∧
      (((watch reorganizedClient Batch.pairExtrinsic.hash reorganized).waitFor .inBlock).2.waitFor .inBlock).1 =
        .ok ⟨.repeated 8, Batch.pairExtrinsic.hash⟩ := by
  have hspec := watch_mirrors_reports reorganizedClient Batch.pairExtrinsic.hash reorganized
  have hplace : Places reorganizedClient (.repeated 7) Batch.pairExtrinsic.hash 0 :=
    ⟨_, Batch.pair_bodies, Inclusion.position_self Batch.pairExtrinsic⟩
  have hrecords : Records reorganizedClient (.repeated 7) Inclusion.interruptedRecords := ⟨_, rfl, rfl⟩
  have hinterrupted : confirm reorganizedClient (.repeated 7) Batch.pairExtrinsic.hash =
      .error (.submission (.batchInterrupted (.repeated 7))) := by
    refine Inclusion.confirm_eq_interrupted_iff.mpr ⟨rfl, 0, _, hplace, hrecords, ?_, ?_⟩
    · simp [Inclusion.interruptedRecords, Fails]
    · simp [Inclusion.interruptedRecords, Interrupts]
  have hconfirmed : confirm reorganizedClient (.repeated 8) Batch.pairExtrinsic.hash =
      .ok ⟨.repeated 8, Batch.pairExtrinsic.hash⟩ := Batch.confirm_pairRecords Batch.pair_bodies ⟨_, rfl, rfl⟩
  have hwaits := hspec.2.2.2.2 [] [.broadcast ["a", "b"]] (.inBlock (.repeated 7)) [.retracted (.repeated 7)]
    (.inBlock (.repeated 8)) [.finalized (.repeated 8)] _ _ _ rfl (by simp [isProgress])
    (.unconfirmed .inBlock hinterrupted) .inBlock hconfirmed
  exact ⟨hwaits.1, hwaits.2.1⟩

end StatusStream
end Payout
