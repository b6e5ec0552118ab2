import Payout.Proofs.CallData
import Payout.Submission

/-!
# Batches that cannot be written

A transfer can be written when the call that it names takes an address and an amount, and has room for the
amount. A batch has no call data when the utility pallet or the call of the mode is missing, or when some
transfer cannot be written; the first such transfer tells what is wrong. Nothing is sent then.
-/
namespace Payout
open Metadata (AccountShape IsAddressTy Profile accountTy)
open Scale (Cases EncodeError Ty Types Value)

namespace Transfer

/-- The call of the transfer takes an address and an unsigned number that may be as large as the amount. -/
def Encodable (m : Metadata) (t : Transfer) : Prop :=
  ∃ dest amount width, m.Takes "Balances" t.call (.ofList [dest, amount]) ∧ IsAddressTy dest ∧
    amount.IsUnsigned width ∧ t.value.toNat < Bytes.bound width

/-- What is wrong with a transfer that cannot be written: the call, or else the first of its arguments that is
wrong, whose position is the path. -/
inductive Faulty (m : Metadata) (t : Transfer) : EncodeError → Prop
  | unknown (hcall : ∀ types, ¬ m.Takes "Balances" t.call types) :
    Faulty m t ⟨[], .unknownVariant t.call⟩
  | count {types : Types} (hcall : m.Takes "Balances" t.call types) (hlength : types.length ≠ 2) :
    Faulty m t ⟨[], .wrongLength types.length 2⟩
  | dest {dest amount : Ty} (hcall : m.Takes "Balances" t.call (.ofList [dest, amount]))
      (hdest : ¬ IsAddressTy dest) :
    Faulty m t ⟨[0], .wrongShape .text⟩
  | amount {dest amount : Ty} (hcall : m.Takes "Balances" t.call (.ofList [dest, amount]))
      (hdest : IsAddressTy dest) (hamount : ∀ width, ¬ amount.IsUnsigned width) :
    Faulty m t ⟨[1], .wrongShape .number⟩
  | value {dest amount : Ty} {width : Nat} (hcall : m.Takes "Balances" t.call (.ofList [dest, amount]))
      (hdest : IsAddressTy dest) (hamount : amount.IsUnsigned width) (hvalue : Bytes.bound width ≤ t.value.toNat) :
    Faulty m t ⟨[1], .outOfRange t.value.toNat⟩

theorem encodable_or_faulty (m : Metadata) (t : Transfer) : t.Encodable m ∨ ∃ e, t.Faulty m e := by
  by_cases hcall : ∃ types, m.Takes "Balances" t.call types
  · obtain ⟨types, hcall⟩ := hcall
    by_cases hlength : types.length = 2
    · obtain ⟨dest, amount, rfl⟩ := Types.exists_of_length_eq_two hlength
      by_cases hdest : IsAddressTy dest
      · by_cases hamount : ∃ width, amount.IsUnsigned width
        · obtain ⟨width, hamount⟩ := hamount
          rcases Nat.lt_or_ge t.value.toNat (Bytes.bound width) with hvalue | hvalue
          · exact .inl ⟨dest, amount, width, hcall, hdest, hamount, hvalue⟩
          · exact .inr ⟨_, .value hcall hdest hamount hvalue⟩
        · exact .inr ⟨_, .amount hcall hdest (not_exists.mp hamount)⟩
      · exact .inr ⟨_, .dest hcall hdest⟩
    · exact .inr ⟨_, .count hcall hlength⟩
  · exact .inr ⟨_, .unknown (not_exists.mp hcall)⟩

end Transfer

section Arguments

theorem Metadata.IsAddressTy.takes {t : Ty} (ht : IsAddressTy t) (dest : AccountId) :
    t.Takes (Transfer.destValue dest) := by
  obtain ⟨cases, index, rfl, hfind⟩ := ht
  have hitem := Types.encodeAll_singleton_eq_ok_iff.mpr (Metadata.accountTy_encode dest)
  exact ⟨index :: dest.toList, Cases.encode_eq_ok_iff.mpr ⟨index, _, dest.toList, hfind, hitem, rfl⟩⟩

/-- An address is not written where a bare account is expected. -/
theorem Metadata.accountTy_encode_destValue (dest : AccountId) :
    accountTy.encode (Transfer.destValue dest) = .error (.ofCause (.wrongShape .text)) := by
  simp [accountTy, Transfer.destValue, Value.call, Ty.encode, Value.shape]

end Arguments

namespace Transfer

variable {profile : Profile} {shape : AccountShape} {t : Transfer}

/-- A transfer is written as the calls of the balances pallet take it, in the one item of that pallet's case. -/
theorem encode_callValue (profile : Profile) (t : Transfer) :
    ∃ index : UInt8, (profile.callTy Profile.nesting).encode t.callValue =
      ((profile.transferCalls.encode t.call t.arguments).mapError (·.under 0)).map (index :: ·) := by
  obtain ⟨p, hfind, hcalls⟩ := Profile.find?_balances profile .standard (profile.callTy 2)
  exact ⟨p.index, Metadata.callTy_encode (Profile.wrapping_names _ _ _) hfind hcalls t.call t.arguments⟩

theorem takes_of_arguments {types : Types} (hcall : (profile.runtime shape).Takes "Balances" t.call types)
    {bytes : Bytes} (h : types.encodeAll t.arguments = .ok bytes) :
    (profile.callTy Profile.nesting).Takes t.callValue := by
  obtain ⟨index, hfind⟩ := Profile.takes_balances_iff.mp hcall
  obtain ⟨pallet, hencode⟩ := encode_callValue profile t
  rw [Cases.encode_of_find? _ hfind, h] at hencode
  exact ⟨_, hencode⟩

theorem encode_of_arguments_error {types : Types}
    (hcall : (profile.runtime shape).Takes "Balances" t.call types) {e : EncodeError}
    (h : types.encodeAll t.arguments = .error e) :
    (profile.callTy Profile.nesting).encode t.callValue = .error (e.under 0) := by
  obtain ⟨index, hfind⟩ := Profile.takes_balances_iff.mp hcall
  obtain ⟨pallet, hencode⟩ := encode_callValue profile t
  rw [Cases.encode_of_find? _ hfind, h] at hencode
  exact hencode

theorem encode_of_unknown (hcall : ∀ types, ¬ (profile.runtime shape).Takes "Balances" t.call types) :
    (profile.callTy Profile.nesting).encode t.callValue =
      .error (.under 0 (.ofCause (.unknownVariant t.call))) := by
  have hnone : profile.transferCalls.find? t.call = none := by
    rw [Option.eq_none_iff_forall_not_mem]
    intro found hfound
    exact hcall found.2 (Profile.takes_balances_iff.mpr ⟨found.1, hfound⟩)
  obtain ⟨pallet, hencode⟩ := encode_callValue profile t
  rw [Cases.encode_of_find?_eq_none _ hnone] at hencode
  exact hencode

theorem Encodable.takes (h : t.Encodable (profile.runtime shape)) :
    (profile.callTy Profile.nesting).Takes t.callValue := by
  obtain ⟨dest, amount, width, hcall, hdest, hamount, hvalue⟩ := h
  obtain ⟨bytes, hbytes⟩ := Types.encodeAll_pair_of_takes (hdest.takes t.dest) (hamount.takes hvalue)
  exact takes_of_arguments hcall hbytes

/-- What is wrong with a transfer is what its encoding complains about. -/
theorem Faulty.encode {e : EncodeError} (h : t.Faulty (profile.runtime shape) e) :
    (profile.callTy Profile.nesting).encode t.callValue = .error (e.under 0) := by
  cases h with
  | unknown hcall => exact encode_of_unknown hcall
  | count hcall hlength => exact encode_of_arguments_error hcall (if_neg (Ne.symm hlength))
  | dest hcall hdest =>
    -- What is no address in the first place is a bare account.
    obtain ⟨haddress | rfl, -⟩ := Profile.arguments_of_takes hcall
    · exact absurd haddress hdest
    · have herror := Metadata.accountTy_encode_destValue t.dest
      exact encode_of_arguments_error hcall (Types.encodeAll_pair_of_first_error herror)
  | @amount dest amount hcall hdest hamount =>
    have hothers := (Profile.arguments_of_takes hcall).2
    have herror : amount.encode (.unsigned t.value) = .error (.ofCause (.wrongShape .number)) := by
      rcases hothers with hnumber | rfl | rfl
      · exact absurd hnumber (not_exists.mpr hamount)
      · simp only [Ty.encode, Value.shape]
      · simp only [Ty.bytes, Ty.encode, Value.shape]
    exact encode_of_arguments_error hcall (Types.encodeAll_pair_of_second_error (hdest.takes t.dest) herror)
  | value hcall hdest hamount hvalue =>
    have herror := hamount.encode_of_le hvalue
    exact encode_of_arguments_error hcall (Types.encodeAll_pair_of_second_error (hdest.takes t.dest) herror)

theorem Faulty.not_takes {e : EncodeError} (h : t.Faulty (profile.runtime shape) e) :
    ¬ (profile.callTy Profile.nesting).Takes t.callValue := by
  intro htakes
  obtain ⟨bytes, hbytes⟩ := htakes
  rw [h.encode] at hbytes
  cases hbytes

/-- The transfers that can be written are those without a fault. -/
theorem takes_callValue_iff (shape : AccountShape) :
    (profile.callTy Profile.nesting).Takes t.callValue ↔ t.Encodable (profile.runtime shape) := by
  constructor
  · intro htakes
    apply (t.encodable_or_faulty (profile.runtime shape)).resolve_right
    intro hfaulty
    obtain ⟨e, he⟩ := hfaulty
    exact he.not_takes htakes
  · exact Encodable.takes

theorem Faulty.not_encodable {e : EncodeError} (h : t.Faulty (profile.runtime shape) e) :
    ¬ t.Encodable (profile.runtime shape) := by
  rw [← takes_callValue_iff]
  exact h.not_takes

end Transfer

/-- A payload without call data is not sent. The nonce is asked for first, which may fail as well. -/
theorem Client.submission_of_encode_error {c : Client} {p : Payload} {e : CallError}
    (h : p.encode c.metadata = .error e) (signer : Signer) (reception : Reception) :
    ∃ cause, c.submission signer p .none reception = ⟨[], .error (.submit cause)⟩ ∧
      ∀ nonce, c.node.nextNonce = .ok nonce → cause = .ofCall e := by
  have hstep : (p.encode c.metadata).mapError ClientError.ofCall = .error (.ofCall e) := by
    rw [h]
    rfl
  cases hnonce : c.node.nextNonce with
  | error cause =>
    have hextrinsic : c.extrinsic signer p .none = .error cause :=
      Outcome.bind_eq_error_iff.mpr (.inl hnonce)
    refine ⟨cause, by rw [submission, hextrinsic], fun nonce hok => ?_⟩
    cases hok
  | ok nonce =>
    have hextrinsic : c.extrinsic signer p .none = .error (.ofCall e) := by
      apply Outcome.bind_eq_error_iff.mpr
      refine .inr ⟨nonce, hnonce, Outcome.bind_eq_error_iff.mpr (.inr ⟨(), rfl, ?_⟩)⟩
      exact Outcome.bind_eq_error_iff.mpr (.inl hstep)
    exact ⟨.ofCall e, by rw [submission, hextrinsic], fun _ _ => rfl⟩

namespace Batch

section Transfers

variable {profile : Profile} {shape : AccountShape} {mode : BatchMode}

theorem exists_encode_iff {b : Batch} :
    (∃ bytes, b.payload.encode (profile.runtime shape) = .ok bytes) ↔
      (∃ types, (profile.runtime shape).Takes "Utility" b.mode.callName types) ∧
        ∀ t ∈ b.transfers, t.Encodable (profile.runtime shape) := by
  have hcalls : (∀ v ∈ b.calls, (profile.callTy Profile.nesting).Takes v) ↔
      ∀ t ∈ b.transfers, t.Encodable (profile.runtime shape) := by
    simp only [calls, List.forall_mem_map, Transfer.takes_callValue_iff shape]
  rw [Payload.exists_encode_iff, ← hcalls, ← Ty.sequence_takes_iff]
  constructor
  · intro h
    obtain ⟨types, data, htakes, hdata⟩ := h
    obtain rfl := Profile.utility_of_takes htakes
    exact ⟨⟨_, htakes⟩, data, Types.encodeAll_singleton_eq_ok_iff.mp hdata⟩
  · intro h
    obtain ⟨⟨types, htakes⟩, data, hdata⟩ := h
    obtain rfl := Profile.utility_of_takes htakes
    exact ⟨_, data, htakes, Types.encodeAll_singleton_eq_ok_iff.mpr hdata⟩

/-- The first transfer that cannot be written decides the error, which tells where that transfer stands. -/
theorem encode_of_first_fault {types : Types}
    (htypes : (profile.runtime shape).Takes "Utility" mode.callName types) {before : List Transfer}
    (hbefore : ∀ s ∈ before, s.Encodable (profile.runtime shape)) {t : Transfer} {e : EncodeError}
    (ht : t.Faulty (profile.runtime shape) e) (after : List Transfer) :
    (Batch.mk (before ++ t :: after) mode).payload.encode (profile.runtime shape) =
      .error (.encode ⟨e.path ++ [0, before.length, 0], e.cause⟩) := by
  obtain rfl := Profile.utility_of_takes htypes
  have hwritten : ∀ v ∈ before.map Transfer.callValue, (profile.callTy Profile.nesting).Takes v :=
    List.forall_mem_map.mpr fun s hs => (hbefore s hs).takes
  have hitems := Ty.sequence_encode_of_first_error hwritten ht.encode (after.map Transfer.callValue)
  have harguments : (Types.ofList [Ty.sequence (profile.callTy Profile.nesting)]).encodeAll
      [.tuple (Batch.mk (before ++ t :: after) mode).calls] =
        .error ⟨e.path ++ [0, before.length, 0], e.cause⟩ := by
    rw [Types.encodeAll_singleton, calls, List.map_append, List.map_cons, hitems]
    simp [Except.mapError, EncodeError.under]
  exact Payload.encode_of_arguments_error htypes harguments

end Transfers

/-- What decides whether a batch has call data in a runtime, and why it has none. -/
structure Decided (m : Metadata) (b : Batch) : Prop where
  success : (∃ bytes, b.payload.encode m = .ok bytes) ↔
    (∃ types, m.Takes "Utility" b.mode.callName types) ∧ ∀ t ∈ b.transfers, t.Encodable m
  /-- What is missing of the utility pallet comes first. -/
  pallet : (∀ p, m.pallet "Utility" ≠ .ok p) → b.payload.encode m = .error (.missing (.pallet "Utility"))
  call : ∀ p, m.pallet "Utility" = .ok p → (∀ types, ¬ m.Takes "Utility" b.mode.callName types) →
    b.payload.encode m = .error (.missing (.call b.mode.callName))
  /-- The first transfer that cannot be written has a fault, and the answer is that fault, at the position of
  the transfer. The later transfers make no difference. -/
  transfer : (∃ types, m.Takes "Utility" b.mode.callName types) → ∀ before t after,
    b.transfers = before ++ t :: after → (∀ s ∈ before, s.Encodable m) → ¬ t.Encodable m →
      (∃ e, t.Faulty m e) ∧
      (∀ e, t.Faulty m e →
        b.payload.encode m = .error (.encode ⟨e.path ++ [0, before.length, 0], e.cause⟩)) ∧
      ∀ others, (Batch.mk (before ++ t :: others) b.mode).payload.encode m = b.payload.encode m
  /-- A batch without call data is not sent, by any client that talks to the runtime. -/
  unsent : ∀ e, b.payload.encode m = .error e → ∀ (c : Client) (signer : Signer) (reception : Reception),
    c.metadata = m → (c.submission signer b.payload .none reception).sent = [] ∧
      ∃ cause, c.submit signer b reception = .error (.submit cause) ∧
        ∀ nonce, c.node.nextNonce = .ok nonce → cause = .ofCall e

/-- A batch is decided by the pallets and calls of the runtime, and by the first transfer that cannot be
written. A batch of exactly one transfer that cannot be written is answered like any other; of an encoder that goes on
without end with such a batch, this tells only what becomes of the others. -/
theorem decided_by_first_fault (b : Batch) (profile : Profile) (shape : AccountShape) :
    Decided (profile.runtime shape) b where
  success := exists_encode_iff
  pallet := fun hp => Payload.encode_of_no_pallet hp
  call := fun p hp hcall => Payload.encode_of_no_call hp hcall
  transfer := by
    intro htakes before t after htransfers hbefore ht
    obtain ⟨types, htypes⟩ := htakes
    obtain ⟨fault, hfault⟩ := (t.encodable_or_faulty (profile.runtime shape)).resolve_left ht
    have hself : b = ⟨before ++ t :: after, b.mode⟩ := congrArg (Batch.mk · b.mode) htransfers
    refine ⟨⟨fault, hfault⟩, fun e he => ?_, fun others => ?_⟩
    · rw [hself]
      exact encode_of_first_fault htypes hbefore he after
    · rw [hself, encode_of_first_fault htypes hbefore hfault after]
      exact encode_of_first_fault htypes hbefore hfault others
  unsent := by
    intro e he c signer reception hc
    rw [← hc] at he
    obtain ⟨cause, hsubmission, hcause⟩ := Client.submission_of_encode_error he signer reception
    rw [Client.submit, Client.submitPayload, hsubmission]
    exact ⟨rfl, cause, rfl, hcause⟩

/-- The second of three transfers has an amount that its call has no room for. The third names no call at all. -/
theorem decided_by_first_fault_amount :
    (Batch.mk [⟨.repeated 1, 5, "transfer_keep_alive"⟩, ⟨.repeated 2, 300, "transfer_u8"⟩,
        ⟨.repeated 3, 0, "none"⟩] .forceBatch).payload.encode (Profile.standard.runtime .standard) =
      .error (.encode ⟨[1, 0, 1, 0], .outOfRange 300⟩) := by
  have haddress : IsAddressTy Metadata.addressTy := ⟨_, _, rfl, rfl⟩
  have hfirst : Transfer.Encodable (Profile.standard.runtime .standard)
      ⟨.repeated 1, 5, "transfer_keep_alive"⟩ :=
    ⟨_, _, 16, ⟨_, _, rfl, rfl⟩, haddress, ⟨by decide, .inr rfl⟩, by decide⟩
  have hsecond : Transfer.Faulty (Profile.standard.runtime .standard) ⟨.repeated 2, 300, "transfer_u8"⟩
      ⟨[1], .outOfRange 300⟩ :=
    .value ⟨_, _, rfl, rfl⟩ haddress ⟨by decide, .inr rfl⟩ (by decide)
  have hdecided := (decided_by_first_fault ⟨_, .forceBatch⟩ .standard .standard).transfer
    ⟨_, _, _, rfl, rfl⟩ [_] _ [⟨.repeated 3, 0, "none"⟩] rfl (List.forall_mem_singleton.mpr hfirst)
    hsecond.not_encodable
  exact hdecided.2.1 _ hsecond

end Batch

end Payout
