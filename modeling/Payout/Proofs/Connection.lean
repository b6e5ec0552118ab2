import Mathlib.Data.ENat.Lattice
import Payout.Connection
import Payout.Proofs.Outcome

/-!
# Bounded retries

Connecting makes attempts at one address until one succeeds or the retries are used up, and waits a second
between two attempts and at no other time. Which attempts are made depends on how many fail before the first
that succeeds. The retries may be counted in a word of 32 bits, which never falls below zero.
-/
namespace Payout.Connection

variable {α : Type}

open Classical in
/-- How many attempts fail before the first that succeeds, which may never come. -/
noncomputable def failures (outcome : Nat → Except ClientError α) : ℕ∞ :=
  if h : ∃ number client, outcome number = .ok client then (Nat.find h : ℕ) else ⊤

/-- The errors of the attempts that are followed by another, out of those from a given number on. -/
def retried (outcome : Nat → Except ClientError α) : (retries : Nat) → (number : Nat) → List ClientError
  | 0, _ => []
  | retries + 1, number =>
    match outcome number with
    | .ok _ => []
    | .error e => e :: retried outcome retries (number + 1)

/-- An attempt that is followed by another, and the wait between them. -/
def retrySteps (address : String) (e : ClientError) : List Step :=
  [.attempt address, .warning (.willRetry address e), .pause 1]

/-- One less, for a number above zero. -/
def spend? (retries : UInt32) : Option UInt32 :=
  if 1 ≤ retries then some (retries - 1) else none

theorem toNat_of_spend? {retries left : UInt32} (h : spend? retries = some left) :
    left.toNat + 1 = retries.toNat := by
  unfold spend? at h
  split at h
  · rename_i hone
    obtain rfl := Option.some.inj h
    have hpos : 1 ≤ retries.toNat := UInt32.le_iff_toNat_le.mp hone
    rw [UInt32.toNat_sub_of_le _ _ hone]
    exact Nat.sub_add_cancel hpos
  · cases h

/-- Attempts from a given number on, with the retries that are left in a word of 32 bits. There is no result
when that word would fall below zero. -/
def countdown (address : String) (outcome : Nat → Except ClientError α) (retries : UInt32) (number : Nat) :
    Option (Connecting α) :=
  match outcome number with
  | .ok client => some ⟨[.attempt address], .ok client⟩
  | .error e =>
    if retries = 0 then some ⟨[.attempt address], .error (.connect address e)⟩
    else
      match h : spend? retries with
      | none => none
      | some left => (countdown address outcome left (number + 1)).map (·.after (retrySteps address e))
termination_by retries.toNat
decreasing_by
  have hless := toNat_of_spend? h
  omega

section Failures

variable {outcome : Nat → Except ClientError α}

theorem not_ok_iff {x : Except ClientError α} : (¬ ∃ client, x = .ok client) ↔ ∃ e, x = .error e := by
  cases x with
  | ok client => simp
  | error e => simp

theorem coe_le_failures_iff {n : Nat} :
    (n : ℕ∞) ≤ failures outcome ↔ ∀ k < n, ∃ e, outcome k = .error e := by
  classical
  simp only [← not_ok_iff]
  unfold failures
  split
  · rename_i h
    rw [Nat.cast_le, Nat.le_find_iff]
  · rename_i h
    rw [not_exists] at h
    simp [h]

theorem failures_le_of_ok {n : Nat} {client : α} (h : outcome n = .ok client) : failures outcome ≤ n := by
  classical
  have hsome : ∃ number client, outcome number = .ok client := ⟨n, client, h⟩
  simp only [failures, dif_pos hsome, Nat.cast_le]
  exact Nat.find_min' hsome ⟨client, h⟩

theorem exists_ok_of_failures_le {n : Nat} (h : failures outcome ≤ n) :
    ∃ first ≤ n, failures outcome = first ∧ ∃ client, outcome first = .ok client := by
  classical
  unfold failures at h ⊢
  split at h
  · rename_i hsome
    simp only [dif_pos hsome]
    exact ⟨Nat.find hsome, Nat.cast_le.mp h, rfl, Nat.find_spec hsome⟩
  · exact absurd h (by simp)

theorem failures_eq_coe {n : Nat} {client : α} (hok : outcome n = .ok client)
    (hfail : ∀ k < n, ∃ e, outcome k = .error e) : failures outcome = n := by
  apply le_antisymm
  · exact failures_le_of_ok hok
  · exact coe_le_failures_iff.mpr hfail

end Failures

section Attempts

variable (outcome : Nat → Except ClientError α) (retries number : Nat)

theorem length_retried_le : (retried outcome retries number).length ≤ retries := by
  induction retries generalizing number with
  | zero => exact Nat.zero_le _
  | succ retries ih =>
    have hlater := ih (number + 1)
    unfold retried
    split
    · exact Nat.zero_le _
    · simpa using hlater

/-- Every attempt that is followed by another failed, with the error that is kept of it. -/
theorem outcome_of_retried {k : Nat} (h : k < (retried outcome retries number).length) :
    outcome (number + k) = .error (retried outcome retries number)[k] := by
  induction retries generalizing number k with
  | zero => simp [retried] at h
  | succ retries ih =>
    cases hfirst : outcome number with
    | ok client => simp [retried, hfirst] at h
    | error e =>
      have hunfold : retried outcome (retries + 1) number = e :: retried outcome retries (number + 1) := by
        simp only [retried, hfirst]
      simp only [hunfold, List.length_cons] at h ⊢
      cases k with
      | zero => simpa using hfirst
      | succ k =>
        have hlater := ih (number + 1) (Nat.lt_of_succ_lt_succ h)
        rw [List.getElem_cons_succ, ← hlater, Nat.add_right_comm, Nat.add_assoc]

theorem outcome_of_retried_zero {k : Nat} (h : k < (retried outcome retries 0).length) :
    outcome k = .error (retried outcome retries 0)[k] := by
  have herror := outcome_of_retried outcome retries 0 h
  rwa [Nat.zero_add] at herror

/-- No attempt follows when the retries are used up, or when an attempt succeeds. -/
theorem retried_stops :
    (retried outcome retries number).length = retries ∨
      ∃ client, outcome (number + (retried outcome retries number).length) = .ok client := by
  induction retries generalizing number with
  | zero => exact .inl rfl
  | succ retries ih =>
    cases hfirst : outcome number with
    | ok client => exact .inr ⟨client, by simp [retried, hfirst]⟩
    | error e =>
      simp only [retried, hfirst, List.length_cons]
      rcases ih (number + 1) with hlength | ⟨client, hclient⟩
      · exact .inl (congrArg (· + 1) hlength)
      · exact .inr ⟨client, by rwa [Nat.add_right_comm, Nat.add_assoc] at hclient⟩

/-- The steps are those of the attempts that are followed by another and of one last attempt, whose outcome is
the result. -/
theorem attemptFrom_eq (address : String) :
    attemptFrom address outcome retries number =
      ⟨(retried outcome retries number).flatMap (retrySteps address) ++ [.attempt address],
        (outcome (number + (retried outcome retries number).length)).mapError (.connect address)⟩ := by
  induction retries generalizing number with
  | zero => rfl
  | succ retries ih =>
    cases hfirst : outcome number with
    | ok client => simp [attemptFrom, retried, hfirst, Except.mapError]
    | error e =>
      have hlater := ih (number + 1)
      rw [Nat.add_right_comm, Nat.add_assoc] at hlater
      simp only [attemptFrom, retried, hfirst, hlater, Connecting.after, List.flatMap_cons,
        List.append_assoc, List.length_cons]
      rfl

/-- As many attempts are followed by another as there are failures and retries. -/
theorem length_retried :
    ((retried outcome retries 0).length : ℕ∞) = min (failures outcome) retries := by
  have hfail : ∀ k < (retried outcome retries 0).length, ∃ e, outcome k = .error e := by
    intro k hk
    exact ⟨_, outcome_of_retried_zero outcome retries hk⟩
  have hstop := retried_stops outcome retries 0
  rw [Nat.zero_add] at hstop
  apply le_antisymm
  · exact le_min (coe_le_failures_iff.mpr hfail) (Nat.cast_le.mpr (length_retried_le outcome retries 0))
  · rcases hstop with hlength | ⟨client, hclient⟩
    · exact min_le_of_right_le (Nat.cast_le.mpr hlength.ge)
    · exact min_le_of_left_le (failures_le_of_ok hclient)

end Attempts

section Steps

variable (address : String) (errors : List ClientError) (result : Except Failure α)

theorem attempts_retrySteps :
    (⟨errors.flatMap (retrySteps address) ++ [.attempt address], result⟩ : Connecting α).attempts =
      List.replicate (errors.length + 1) address := by
  induction errors with
  | nil => rfl
  | cons e errors ih =>
    simp only [Connecting.attempts] at ih
    simp [Connecting.attempts, retrySteps, ih, List.replicate_succ]

theorem seconds_retrySteps :
    (⟨errors.flatMap (retrySteps address) ++ [.attempt address], result⟩ : Connecting α).seconds =
      errors.length := by
  have hsum (start : Nat) :
      (errors.flatMap (retrySteps address)).foldl (fun n s => n + s.seconds) start =
        start + errors.length := by
    induction errors generalizing start with
    | nil => rfl
    | cons e errors ih =>
      simp only [List.flatMap_cons, List.foldl_append, ih, List.length_cons]
      simp only [retrySteps, List.foldl_cons, List.foldl_nil, Step.seconds]
      omega
  rw [Connecting.seconds, List.foldl_append, hsum]
  simp [Step.seconds]

end Steps

/-- The word of the retries that are left never falls below zero, and counts them as the number does. -/
theorem countdown_eq_some (address : String) (outcome : Nat → Except ClientError α) (retries : UInt32)
    (number : Nat) :
    countdown address outcome retries number =
      some (attemptFrom address outcome retries.toNat number) := by
  -- The induction is on what the word stands for; a word that stands for a successor can be lowered by one.
  induction hleft : retries.toNat generalizing retries number with
  | zero =>
    have hzero : retries = 0 := UInt32.toNat_inj.mp hleft
    unfold countdown attemptFrom
    cases outcome number with
    | ok client => rfl
    | error e => simp only [hzero, if_true]; rfl
  | succ left ih =>
    have hne : retries ≠ 0 := by
      rintro rfl
      cases hleft
    have hone : 1 ≤ retries := by
      rw [UInt32.le_iff_toNat_le, hleft]
      exact Nat.succ_pos left
    have hspend : spend? retries = some (retries - 1) := if_pos hone
    have hless := toNat_of_spend? hspend
    have hlater := ih (retries - 1) (number + 1) (by omega)
    unfold countdown attemptFrom
    cases outcome number with
    | ok client => rfl
    | error e =>
      simp only [if_neg hne]
      split
      · rename_i hnone
        rw [hspend] at hnone
        cases hnone
      · rename_i rest hsome
        obtain rfl : retries - 1 = rest := Option.some.inj (hspend.symm.trans hsome)
        rw [hlater]
        rfl

section Connect

variable (address : String) (retries : Nat) (outcome : Nat → Except ClientError α)

theorem connect_eq :
    connect address retries outcome =
      ⟨(retried outcome retries 0).flatMap (retrySteps (Address.withProtocol address)) ++
          [.attempt (Address.withProtocol address)],
        (outcome (retried outcome retries 0).length).mapError
          (.connect (Address.withProtocol address))⟩ := by
  have hattempts := attemptFrom_eq outcome retries 0 (Address.withProtocol address)
  rwa [Nat.zero_add] at hattempts

/-- Connecting gives the client of the first attempt that succeeds, if the retries reach that far. -/
theorem connect_result_eq_ok_iff {client : α} :
    (connect address retries outcome).result = .ok client ↔
      ∃ n : Nat, failures outcome = n ∧ n ≤ retries ∧ outcome n = .ok client := by
  rw [connect_eq, Outcome.mapError_eq_ok_iff]
  have hlength := length_retried outcome retries
  constructor
  · intro hok
    have hfirst : failures outcome = (retried outcome retries 0).length := by
      apply failures_eq_coe hok
      intro k hk
      exact ⟨_, outcome_of_retried_zero outcome retries hk⟩
    exact ⟨_, hfirst, length_retried_le outcome retries 0, hok⟩
  · intro h
    obtain ⟨n, hn, hle, hok⟩ := h
    rw [hn, min_eq_left (Nat.cast_le.mpr hle), Nat.cast_inj] at hlength
    rwa [hlength]

theorem connect_result_eq_error_iff {e : Failure} :
    (connect address retries outcome).result = .error e ↔
      retries < failures outcome ∧ ∃ cause, outcome retries = .error cause ∧
        e = .connect (Address.withProtocol address) cause := by
  have hlength := length_retried outcome retries
  constructor
  · intro h
    have hmany : (retries : ℕ∞) < failures outcome := by
      by_contra hfew
      obtain ⟨n, hle, hn, client, hok⟩ := exists_ok_of_failures_le (not_lt.mp hfew)
      rw [(connect_result_eq_ok_iff address retries outcome).mpr ⟨n, hn, hle, hok⟩] at h
      cases h
    rw [connect_eq] at h
    rw [min_eq_right hmany.le, Nat.cast_inj] at hlength
    rw [hlength] at h
    cases hlast : outcome retries with
    | ok client =>
      rw [hlast] at h
      cases h
    | error cause =>
      rw [hlast] at h
      exact ⟨hmany, cause, rfl, (Except.error.inj h).symm⟩
  · intro h
    obtain ⟨hmany, cause, hcause, rfl⟩ := h
    rw [min_eq_right hmany.le, Nat.cast_inj] at hlength
    rw [connect_eq, hlength, hcause]
    rfl

end Connect

/-- What holds of connecting to an address with so many retries, given what each attempt leads to. -/
structure Bounded (address : String) (retries : UInt32) (outcome : Nat → Except ClientError α)
    (c : Connecting α) : Prop where
  /-- As many attempts are followed by another as there are failures and retries. Each of them is followed by a
  warning of its error and a pause of a second; there is no other pause, and all attempts are at one address. -/
  steps : ∃ errors : List ClientError,
    (errors.length : ℕ∞) = min (failures outcome) retries.toNat ∧
      (∀ k (h : k < errors.length), outcome k = .error errors[k]) ∧
      c.steps = errors.flatMap (retrySteps (Address.withProtocol address)) ++
        [.attempt (Address.withProtocol address)] ∧
      c.attempts = List.replicate (errors.length + 1) (Address.withProtocol address) ∧
      c.seconds = errors.length
  /-- The result is the client of the first attempt that succeeds, if the retries reach that far. -/
  success : ∀ client, c.result = .ok client ↔
    ∃ n : Nat, failures outcome = n ∧ n ≤ retries.toNat ∧ outcome n = .ok client
  /-- Otherwise it is the error of the last attempt. -/
  failure : ∀ e, c.result = .error e ↔
    retries.toNat < failures outcome ∧ ∃ cause, outcome retries.toNat = .error cause ∧
      e = .connect (Address.withProtocol address) cause ∧
      e.message = "Failed to connect to " ++ Address.withProtocol address ++ ": " ++ cause.name
  /-- The retries that are left are never fewer than none. -/
  counter : countdown (Address.withProtocol address) outcome retries 0 = some c
  /-- A protocol in the address changes nothing. -/
  protocol : connect (Address.withProtocol address) retries.toNat outcome = c

/-- Connecting is bounded by the retries, whatever the attempts lead to. -/
theorem connect_bounded (address : String) (retries : UInt32) (outcome : Nat → Except ClientError α) :
    Bounded address retries outcome (connect address retries.toNat outcome) where
  steps := by
    refine ⟨retried outcome retries.toNat 0, length_retried outcome retries.toNat,
      fun k h => outcome_of_retried_zero outcome retries.toNat h, ?_⟩
    rw [connect_eq]
    exact ⟨rfl, attempts_retrySteps _ _ _, seconds_retrySteps _ _ _⟩
  success := fun client => connect_result_eq_ok_iff address retries.toNat outcome
  failure := fun e => by
    rw [connect_result_eq_error_iff]
    refine and_congr_right fun _ => exists_congr fun cause => and_congr_right fun _ => ?_
    constructor
    · rintro rfl
      exact ⟨rfl, rfl⟩
    · exact And.left
  counter := countdown_eq_some _ outcome retries 0
  protocol := by
    rw [connect, Address.withProtocol_withProtocol]
    rfl

end Payout.Connection
