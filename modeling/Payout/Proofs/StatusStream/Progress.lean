import Payout.Proofs.StatusStream.History

/-!
# Progress is invisible to waiting

Nodes differ in how much they tell of an extrinsic that is under way. Two streams whose items differ in such
statuses only stand at different places after a wait, with different items left, but what is left again differs in
such statuses only. So a sequence of waits has the same answers on both, whichever of these statuses are left out
and wherever others are put in.
-/
namespace Payout.StatusStream

/-- The second list is the first without some of its statuses of progress. -/
inductive Thinned : List Item → List Item → Prop
  | nil : Thinned [] []
  | keep (item : Item) {items fewer : List Item} : Thinned items fewer → Thinned (item :: items) (item :: fewer)
  | drop {status : Status} {items fewer : List Item} (h : status.isProgress = true) :
    Thinned items fewer → Thinned (.ok status :: items) fewer

def isProgressItem : Item → Bool
  | .ok status => status.isProgress
  | .error _ => false

/-- The items without all statuses of progress. -/
def withoutProgress (items : List Item) : List Item :=
  items.filter fun item => !isProgressItem item

/-- What waits for some targets answer, one after another. -/
def answers (s : StatusStream) (targets : List Target) : List Answer :=
  (s.run (targets.map .waitFor)).events.map Event.answer

section Items

variable {target : Target} {items fewer : List Item}

theorem silent_of_isProgress {status : Status} (h : status.isProgress = true) :
    Silent target (.ok status) := by
  have hinBlock : Silent .inBlock (.ok status) := silent_inBlock_iff.mpr ⟨status, rfl, h⟩
  cases target with
  | inBlock => exact hinBlock
  | finalized => exact hinBlock.finalized
  | submitted => exact hinBlock.finalized

theorem thinned_withoutProgress (items : List Item) : Thinned items (withoutProgress items) := by
  induction items with
  | nil => exact .nil
  | cons item items ih =>
    rcases item with e | status
    · exact .keep _ ih
    · cases h : status.isProgress with
      | true => simpa [withoutProgress, isProgressItem, h] using Thinned.drop h ih
      | false => simpa [withoutProgress, isProgressItem, h] using Thinned.keep (.ok status) ih

/-- A wait ends at the same item in both lists, and leaves lists that are again so related. -/
theorem Thinned.await (h : Thinned items fewer) :
    (await target items).answer = (await target fewer).answer ∧
      (await target items).found = (await target fewer).found ∧
      Thinned (await target items).left (await target fewer).left := by
  induction h with
  | nil => exact ⟨rfl, rfl, .nil⟩
  | keep item hrest ih =>
    unfold StatusStream.await
    split
    · exact ⟨rfl, rfl, hrest⟩
    · exact ih
  | drop hprogress _ ih =>
    have hsilent : verdict target (.ok _) = none := silent_of_isProgress hprogress
    rw [StatusStream.await, hsilent]
    exact ih

end Items

/-- Two streams of a transaction that remember the same, one of which has fewer statuses of progress to tell. -/
structure ThinnedTo (s t : StatusStream) : Prop where
  txHash : s.txHash = t.txHash
  finalized : s.finalized = t.finalized
  items : Thinned s.items t.items

section Streams

variable {s t : StatusStream}

theorem ThinnedTo.wait (h : s.ThinnedTo t) (target : Target) :
    (s.wait target).answer = (t.wait target).answer ∧ (s.wait target).found = (t.wait target).found ∧
      Thinned (s.wait target).left (t.wait target).left := by
  obtain ⟨htx, hfinalized, hitems⟩ := h
  by_cases ht : target = .submitted
  · subst ht
    exact ⟨by simp only [StatusStream.wait, htx], rfl, hitems⟩
  · cases hs : s.finalized with
    | some info =>
      rw [wait_of_finalized hs ht, wait_of_finalized (hfinalized.symm.trans hs) ht]
      exact ⟨rfl, rfl, hitems⟩
    | none =>
      rw [wait_eq_await hs ht, wait_eq_await (hfinalized.symm.trans hs) ht]
      exact hitems.await

theorem ThinnedTo.waitFor (h : s.ThinnedTo t) (target : Target) :
    (s.waitFor target).1 = (t.waitFor target).1 ∧ (s.waitFor target).2.ThinnedTo (t.waitFor target).2 := by
  obtain ⟨hanswer, hfound, hleft⟩ := h.wait target
  refine ⟨hanswer, h.txHash, ?_, hleft⟩
  simp only [StatusStream.waitFor, h.finalized, hfound]

theorem ThinnedTo.answers (h : s.ThinnedTo t) (targets : List Target) : s.answers targets = t.answers targets := by
  induction targets generalizing s t with
  | nil => rfl
  | cons target targets ih =>
    obtain ⟨hanswer, hnext⟩ := h.waitFor target
    have hrest := ih hnext
    simp only [StatusStream.answers] at hrest
    simp only [StatusStream.answers, List.map_cons, run, perform, hanswer, hrest]

end Streams

/-- Waits have the same answers when statuses of progress are left out, when others are put in anywhere, and when
both are done at once. -/
theorem answers_of_progress_changed (tx : TxHash) (items : List Item) (targets : List Target) :
    (∀ fewer, Thinned items fewer → (new tx fewer).answers targets = (new tx items).answers targets) ∧
    (∀ more, Thinned more items → (new tx more).answers targets = (new tx items).answers targets) ∧
    ∀ others, withoutProgress others = withoutProgress items →
      (new tx others).answers targets = (new tx items).answers targets := by
  have hfewer {all fewer : List Item} (h : Thinned all fewer) :
      (new tx all).answers targets = (new tx fewer).answers targets := by
    have hstreams : (new tx all).ThinnedTo (new tx fewer) := ⟨rfl, rfl, h⟩
    exact hstreams.answers targets
  refine ⟨fun fewer h => (hfewer h).symm, fun more h => hfewer h, fun others h => ?_⟩
  rw [hfewer (thinned_withoutProgress others), h, ← hfewer (thinned_withoutProgress items)]

/-- An inclusion that is withdrawn, without the statuses of progress around it and with others after it. -/
theorem answers_of_progress_changed_moved :
    (new (.repeated 9) [.ok (.inBlock ⟨.repeated 1, .repeated 9⟩),
        .ok (.finalized ⟨.repeated 2, .repeated 9⟩), .ok .invalid]).answers [.inBlock, .inBlock, .finalized] =
      (new (.repeated 9) moved).answers [.inBlock, .inBlock, .finalized] ∧
    (new (.repeated 9) (.ok (.broadcast 3) :: moved)).answers [.finalized, .submitted] =
      (new (.repeated 9) moved).answers [.finalized, .submitted] ∧
    (new (.repeated 9) [.ok (.inBlock ⟨.repeated 1, .repeated 9⟩), .ok .future, .ok .ready,
        .ok (.finalized ⟨.repeated 2, .repeated 9⟩), .ok .invalid]).answers [.inBlock, .finalized] =
      (new (.repeated 9) moved).answers [.inBlock, .finalized] := by
  have hmoved : Thinned moved moved := .keep _ (.keep _ (.keep _ (.keep _ (.keep _ .nil))))
  refine ⟨?_, ?_, ?_⟩
  · apply (answers_of_progress_changed _ moved _).1
    exact .drop rfl (.keep _ (.drop rfl (.keep _ (.keep _ .nil))))
  · apply (answers_of_progress_changed _ moved _).2.1
    exact .drop rfl hmoved
  · apply (answers_of_progress_changed _ moved _).2.2
    rfl

end Payout.StatusStream
