import Payout.Proofs.Connection

/-!
# Connecting with the default retries

A caller who does not say how many retries there are gets ten. They come after a first attempt, so that up to eleven
attempts are made, with ten seconds between them. A node that refuses ten connections and takes the next one is
reached, with or without a signer.
-/
namespace Payout

namespace Connecting

variable {α β : Type} (f : α → β) (c : Connecting α)

@[simp] theorem attempts_map : (c.map f).attempts = c.attempts :=
  rfl

@[simp] theorem seconds_map : (c.map f).seconds = c.seconds :=
  rfl

theorem map_id : c.map id = c := by
  cases c with
  | mk steps result => cases result <;> rfl

theorem insist_map : (c.map f).insist = c.insist.map f := by
  cases c with
  | mk steps result => cases result <;> rfl

end Connecting

namespace Connection

variable {α β σ : Type} {address : String} {outcome : Nat → Except ClientError α}

/-- What holds of a caller who connects without a number of retries, insists on the connection, and makes something
of it. -/
structure DefaultBudget (address : String) (outcome : Nat → Except ClientError α) (wrap : α → β)
    (c : Connecting β) : Prop where
  /-- There is one attempt more than there are failures, but not after the eleventh, and a second between two. -/
  attempts : ∃ n : Nat, (n : ℕ∞) = min (failures outcome) 10 ∧
    c.attempts = List.replicate (n + 1) (Address.withProtocol address) ∧ c.seconds = n
  /-- The eleventh attempt is made when ten have failed. -/
  eleventh : 10 < c.attempts.length ↔ ∀ k < 10, ∃ e, outcome k = .error e
  success : ∀ b, c.insist = .ok b ↔ ∃ n ≤ 10, ∃ client, (∀ k < n, ∃ e, outcome k = .error e) ∧
    outcome n = .ok client ∧ wrap client = b
  /-- Only the failure of the eleventh attempt is reported. -/
  failure : ∀ text, c.insist = .error text ↔ (∀ k < 10, ∃ e, outcome k = .error e) ∧
    ∃ cause, outcome 10 = .error cause ∧ text = "Connection should be created: " ++
      ("Failed to connect to " ++ Address.withProtocol address ++ ": " ++ cause.name)

theorem failures_eq_coe_iff {n : Nat} {client : α} (hok : outcome n = .ok client) :
    failures outcome = n ↔ ∀ k < n, ∃ e, outcome k = .error e := by
  constructor
  · intro h
    exact coe_le_failures_iff.mp h.ge
  · exact failures_eq_coe hok

theorem ten_lt_failures_iff {cause : ClientError} (hlast : outcome 10 = .error cause) :
    (10 : Nat) < failures outcome ↔ ∀ k < 10, ∃ e, outcome k = .error e := by
  constructor
  · intro h
    exact coe_le_failures_iff.mp h.le
  · intro h
    have hall : ((11 : Nat) : ℕ∞) ≤ failures outcome := by
      refine coe_le_failures_iff.mpr fun k hk => ?_
      rcases Nat.lt_succ_iff_lt_or_eq.mp hk with hlt | rfl
      · exact h k hlt
      · exact ⟨cause, hlast⟩
    exact lt_of_lt_of_le (Nat.cast_lt.mpr (by decide)) hall

theorem connectDefault_insist_eq_ok_iff {client : α} : (connectDefault address outcome).insist = .ok client ↔
    ∃ n ≤ 10, (∀ k < n, ∃ e, outcome k = .error e) ∧ outcome n = .ok client := by
  rw [Connecting.insist, Outcome.mapError_eq_ok_iff, connectDefault, connect_result_eq_ok_iff]
  constructor
  · rintro ⟨n, hn, hle, hok⟩
    exact ⟨n, hle, (failures_eq_coe_iff hok).mp hn, hok⟩
  · rintro ⟨n, hle, hfail, hok⟩
    exact ⟨n, (failures_eq_coe_iff hok).mpr hfail, hle, hok⟩

theorem connectDefault_insist_eq_error_iff {text : String} :
    (connectDefault address outcome).insist = .error text ↔ (∀ k < 10, ∃ e, outcome k = .error e) ∧
      ∃ cause, outcome 10 = .error cause ∧ text = "Connection should be created: " ++
        ("Failed to connect to " ++ Address.withProtocol address ++ ": " ++ cause.name) := by
  simp only [Connecting.insist, Outcome.mapError_eq_error_iff, connectDefault, connect_result_eq_error_iff]
  constructor
  · rintro ⟨e, ⟨hmany, cause, hlast, rfl⟩, rfl⟩
    exact ⟨(ten_lt_failures_iff hlast).mp hmany, cause, hlast, rfl⟩
  · rintro ⟨hfail, cause, hlast, rfl⟩
    exact ⟨_, ⟨(ten_lt_failures_iff hlast).mpr hfail, cause, hlast, rfl⟩, rfl⟩

theorem connectDefault_map_budget (address : String) (outcome : Nat → Except ClientError α) (wrap : α → β) :
    DefaultBudget address outcome wrap ((connectDefault address outcome).map wrap) := by
  have hlength := length_retried outcome defaultRetries
  have hattempts : (connectDefault address outcome).attempts =
      List.replicate ((retried outcome defaultRetries 0).length + 1) (Address.withProtocol address) := by
    rw [connectDefault, connect_eq]
    exact attempts_retrySteps _ _ _
  have hseconds : (connectDefault address outcome).seconds = (retried outcome defaultRetries 0).length := by
    rw [connectDefault, connect_eq]
    exact seconds_retrySteps _ _ _
  constructor
  case attempts =>
    refine ⟨_, hlength, ?_, ?_⟩
    · rw [Connecting.attempts_map, hattempts]
    · rw [Connecting.seconds_map, hseconds]
  case eleventh =>
    have hmany : defaultRetries ≤ (retried outcome defaultRetries 0).length ↔
        (defaultRetries : ℕ∞) ≤ failures outcome := by
      rw [← Nat.cast_le (α := ℕ∞), hlength, le_min_iff, and_iff_left le_rfl]
    rw [Connecting.attempts_map, hattempts, List.length_replicate, ← coe_le_failures_iff]
    exact Nat.lt_succ_iff.trans hmany
  case success =>
    intro b
    simp only [Connecting.insist_map, Outcome.map_eq_ok_iff, connectDefault_insist_eq_ok_iff]
    constructor
    · rintro ⟨client, ⟨n, hle, hfail, hok⟩, rfl⟩
      exact ⟨n, hle, client, hfail, hok, rfl⟩
    · rintro ⟨n, hle, client, hfail, hok, rfl⟩
      exact ⟨client, ⟨n, hle, hfail, hok⟩, rfl⟩
  case failure =>
    intro text
    rw [Connecting.insist_map, Outcome.map_eq_error_iff, connectDefault_insist_eq_error_iff]

/-- Up to eleven attempts are made without a number of retries, with a signer or without. -/
theorem default_budget (address : String) (outcome : Nat → Except ClientError α) (signer : σ) :
    DefaultBudget address outcome id (connectDefault address outcome) ∧
      DefaultBudget address outcome (·, signer) (connectSigned address signer outcome) := by
  constructor
  · have hplain := connectDefault_map_budget address outcome id
    rwa [Connecting.map_id] at hplain
  · exact connectDefault_map_budget address outcome (·, signer)

/-- The first ten connections are refused. -/
def refusedTenTimes (number : Nat) : Except ClientError Unit :=
  if number < 10 then .error .rpc else .ok ()

/-- Ten refusals do not make a caller give up, and nobody gives up after nine seconds. -/
theorem default_budget_eleventh :
    (∀ k < 10, refusedTenTimes k = .error .rpc) ∧
      (connectDefault "ws://127.0.0.1:1" refusedTenTimes).attempts.length = 11 ∧
      (connectDefault "ws://127.0.0.1:1" refusedTenTimes).insist = .ok () ∧
      (connectSigned "ws://127.0.0.1:1" () refusedTenTimes).attempts.length = 11 ∧
      (connectSigned "ws://127.0.0.1:1" () refusedTenTimes).insist = .ok ((), ()) ∧
      (connectDefault "ws://127.0.0.1:1" fun _ => (.error .rpc : Except ClientError Unit)).seconds = 10 := by
  refine ⟨fun k hk => ?_, rfl, rfl, rfl, rfl, rfl⟩
  exact if_pos hk

end Connection
end Payout
