import Mathlib.Algebra.Order.Ring.Nat
import Payout.Batch
import Payout.Proofs.Metadata.Calls

/-!
# Call data

The call data of a payload is the encoding of one call of the runtime. A batch of transfers is a plain value,
so its call data is read back as that batch under any profile that can encode it. In particular no two
batches share their call data.
-/
namespace Payout
open Metadata (AccountShape Profile)
open Scale (Cases Types Value)

section Forms

/-- A payload has call data when there is a call of its names that takes its arguments. -/
theorem Payload.encode_eq_ok_iff {m : Metadata} {p : Payload} {bytes : Bytes} :
    p.encode m = .ok bytes ↔ ∃ pallet calls index types data,
      m.pallets.find? (·.name = p.pallet) = some pallet ∧ pallet.calls = some calls ∧
        calls.find? p.call = some (index, types) ∧ types.encodeAll p.arguments = .ok data ∧
        bytes = pallet.index :: index :: data := by
  unfold Payload.encode
  simp only [Outcome.bind_eq_ok_iff, Outcome.mapError_eq_ok_iff, Metadata.pallet_eq_ok_iff, Prod.exists,
    Metadata.call_eq_ok_iff]
  constructor
  · intro h
    obtain ⟨pallet, hpallet, index, types, ⟨calls, hcalls, hindex⟩, data, hdata, h⟩ := h
    exact ⟨pallet, calls, index, types, data, hpallet, hcalls, hindex, hdata, (Except.ok.inj h).symm⟩
  · intro h
    obtain ⟨pallet, calls, index, types, data, hpallet, hcalls, hindex, hdata, rfl⟩ := h
    exact ⟨pallet, hpallet, index, types, ⟨calls, hcalls, hindex⟩, data, hdata, rfl⟩

theorem Metadata.callTy_encode_eq_ok_iff {m : Metadata} (hnames : (m.pallets.map Metadata.Pallet.name).Nodup)
    {pallet call : String} {arguments : List Value} {bytes : Bytes} :
    m.callTy.encode (.call pallet [.call call arguments]) = .ok bytes ↔ ∃ p calls index types data,
      m.pallets.find? (·.name = pallet) = some p ∧ p.calls = some calls ∧
        calls.find? call = some (index, types) ∧ types.encodeAll arguments = .ok data ∧
        bytes = p.index :: index :: data := by
  simp only [Metadata.callTy, Value.call, Scale.Ty.encode, Cases.encode_eq_ok_iff,
    Metadata.find?_callCases_eq_some_iff hnames]
  constructor
  · intro h
    obtain ⟨_, _, _, ⟨p, calls, hp, hcalls, rfl, rfl⟩, hcall, rfl⟩ := h
    rw [Types.encodeAll_singleton_eq_ok_iff, Scale.Ty.encode, Cases.encode_eq_ok_iff] at hcall
    obtain ⟨index, types, data, hindex, hdata, rfl⟩ := hcall
    exact ⟨p, calls, index, types, data, hp, hcalls, hindex, hdata, rfl⟩
  · intro h
    obtain ⟨p, calls, index, types, data, hp, hcalls, hindex, hdata, rfl⟩ := h
    refine ⟨_, _, _, ⟨p, calls, hp, hcalls, rfl, rfl⟩, ?_, rfl⟩
    rw [Types.encodeAll_singleton_eq_ok_iff, Scale.Ty.encode, Cases.encode_eq_ok_iff]
    exact ⟨index, types, data, hindex, hdata, rfl⟩

/-- The call data of a payload is the encoding of one call of the runtime. -/
theorem Payload.encode_callTy_iff {m : Metadata} (hnames : (m.pallets.map Metadata.Pallet.name).Nodup)
    {p : Payload} {bytes : Bytes} :
    m.callTy.encode (.call p.pallet [.call p.call p.arguments]) = .ok bytes ↔ p.encode m = .ok bytes := by
  rw [Metadata.callTy_encode_eq_ok_iff hnames, Payload.encode_eq_ok_iff]

/-- The two forms of a batch are written as the same bytes, or neither of them can be written. Of a batch of exactly
one call that cannot be written this says only that there are no bytes, as is true as well of an encoder that goes on
without end with it. -/
theorem Batch.callValue_encode_iff (b : Batch) (profile : Profile) (shape : AccountShape) (bytes : Bytes) :
    (profile.runtime shape).callTy.encode b.callValue = .ok bytes ↔
      b.payload.encode (profile.runtime shape) = .ok bytes :=
  Payload.encode_callTy_iff (p := b.payload) (Profile.wrapping_names _ _ _)

end Forms

/-- A payload has call data when there is a call of its names that takes its arguments. -/
theorem Payload.exists_encode_iff {m : Metadata} {p : Payload} :
    (∃ bytes, p.encode m = .ok bytes) ↔
      ∃ types data, m.Takes p.pallet p.call types ∧ types.encodeAll p.arguments = .ok data := by
  simp only [Payload.encode, Outcome.bind_eq_ok_iff, Outcome.mapError_eq_ok_iff, Prod.exists]
  constructor
  · intro h
    obtain ⟨bytes, pallet, hpallet, index, types, hcall, data, hdata, -⟩ := h
    exact ⟨types, data, ⟨pallet, index, hpallet, hcall⟩, hdata⟩
  · intro h
    obtain ⟨types, data, ⟨pallet, index, hpallet, hcall⟩, hdata⟩ := h
    exact ⟨_, pallet, hpallet, index, types, hcall, data, hdata, rfl⟩

section Errors

variable {m : Metadata} {p : Payload}

theorem Payload.encode_of_no_pallet (h : ∀ pallet, m.pallet p.pallet ≠ .ok pallet) :
    p.encode m = .error (.missing (.pallet p.pallet)) := by
  have hstep : (m.pallet p.pallet).mapError CallError.missing = .error (.missing (.pallet p.pallet)) := by
    rw [Metadata.pallet_of_missing h]
    rfl
  exact Outcome.bind_eq_error_iff.mpr (.inl hstep)

theorem Payload.encode_of_no_call {pallet : Metadata.Pallet} (hpallet : m.pallet p.pallet = .ok pallet)
    (h : ∀ types, ¬ m.Takes p.pallet p.call types) : p.encode m = .error (.missing (.call p.call)) := by
  have hcall : ∀ found, pallet.call p.call ≠ .ok found :=
    fun found hfound => h found.2 ⟨pallet, found.1, hpallet, hfound⟩
  have hfound : (m.pallet p.pallet).mapError CallError.missing = .ok pallet :=
    Outcome.mapError_eq_ok_iff.mpr hpallet
  have hstep : (pallet.call p.call).mapError CallError.missing = .error (.missing (.call p.call)) := by
    rw [Metadata.call_of_missing hcall]
    rfl
  apply Outcome.bind_eq_error_iff.mpr
  exact .inr ⟨pallet, hfound, Outcome.bind_eq_error_iff.mpr (.inl hstep)⟩

/-- Where there is such a call, only its arguments may be wrong. -/
theorem Payload.encode_of_arguments_error {types : Types} (h : m.Takes p.pallet p.call types)
    {e : Scale.EncodeError} (he : types.encodeAll p.arguments = .error e) :
    p.encode m = .error (.encode e) := by
  obtain ⟨pallet, index, hpallet, hcall⟩ := h
  have hfound : (m.pallet p.pallet).mapError CallError.missing = .ok pallet :=
    Outcome.mapError_eq_ok_iff.mpr hpallet
  have htaken : (pallet.call p.call).mapError CallError.missing = .ok (index, types) :=
    Outcome.mapError_eq_ok_iff.mpr hcall
  have hstep : (types.encodeAll p.arguments).mapError CallError.encode = .error (.encode e) := by
    rw [he]
    rfl
  apply Outcome.bind_eq_error_iff.mpr
  refine .inr ⟨pallet, hfound, Outcome.bind_eq_error_iff.mpr (.inr ⟨_, htaken, ?_⟩)⟩
  exact Outcome.bind_eq_error_iff.mpr (.inl hstep)

end Errors

section Plain

theorem Transfer.destValue_plain (dest : AccountId) : (destValue dest).Plain := by
  refine .call fun v hv => ?_
  obtain rfl := List.mem_singleton.mp hv
  have hlength : (dest.toList.map Value.byte).length = 32 := by
    rw [List.length_map, dest.length_toList]
  refine .tuple (by rw [hlength]; decide) (fun w hw => ?_) fun w hw => ?_
  · rw [hw] at hlength
    cases hlength
  · obtain ⟨b, -, rfl⟩ := List.mem_map.mp hw
    exact .unsigned _

theorem Transfer.callValue_plain (t : Transfer) : t.callValue.Plain := by
  refine .call fun v hv => ?_
  obtain rfl := List.mem_singleton.mp hv
  refine .call fun w hw => ?_
  simp only [arguments, List.mem_cons, List.not_mem_nil, or_false] at hw
  rcases hw with rfl | rfl
  · exact destValue_plain t.dest
  · exact .unsigned _

theorem Batch.callValue_plain {b : Batch} (hlength : b.transfers.length < Bytes.bound 4) :
    b.callValue.Plain := by
  refine .call fun v hv => ?_
  obtain rfl := List.mem_singleton.mp hv
  refine .call fun w hw => ?_
  obtain rfl := List.mem_singleton.mp hw
  refine .tuple (by simpa only [calls, List.length_map] using hlength) (fun c hc => ?_) fun c hc => ?_
  · have hmem : c ∈ b.calls := hc ▸ List.mem_singleton_self c
    obtain ⟨t, -, rfl⟩ := List.mem_map.mp hmem
    exact not_false
  · obtain ⟨t, -, rfl⟩ := List.mem_map.mp hc
    exact t.callValue_plain

end Plain

section Injective

theorem BatchMode.callName_injective {a b : BatchMode} (h : a.callName = b.callName) : a = b := by
  cases a <;> cases b <;> first | rfl | exact absurd h (by decide)

theorem Transfer.callValue_injective {a b : Transfer} (h : a.callValue = b.callValue) : a = b := by
  simp only [callValue, arguments, destValue, Value.call, Value.variant.injEq, List.cons.injEq, true_and,
    and_true, Value.unsigned.injEq] at h
  obtain ⟨hcall, hdest, hvalue⟩ := h
  have haccount : a.dest = b.dest := Bytes32.ext (Value.bytes_injective hdest)
  cases a
  cases b
  simp_all

theorem Batch.callValue_injective {a b : Batch} (h : a.callValue = b.callValue) : a = b := by
  simp only [callValue, Value.call, Value.tuple, Value.variant.injEq, List.cons.injEq, true_and, and_true,
    Value.composite.injEq] at h
  obtain ⟨hname, hcalls⟩ := h
  have hmode := BatchMode.callName_injective hname
  have htransfers := (List.map_inj_right fun _ _ => Transfer.callValue_injective).mp hcalls
  cases a
  cases b
  simp_all

end Injective

/-- The call data of a batch is read back as its one runtime call. -/
theorem Batch.decode_callData {b : Batch} {profile : Profile} {shape : AccountShape} {bytes : Bytes}
    (hlength : b.transfers.length < Bytes.bound 4)
    (h : b.payload.encode (profile.runtime shape) = .ok bytes) :
    (profile.callTy (Profile.nesting + 1)).decode bytes = some (b.callValue, []) := by
  have hencode : (profile.callTy (Profile.nesting + 1)).encode b.callValue = .ok bytes := by
    rw [← Profile.runtime_callTy profile shape]
    exact (Payload.encode_callTy_iff (Profile.wrapping_names _ _ _)).mpr h
  have hread := (profile.callTy_regular _).decode_encode (b.callValue_plain hlength) hencode []
  rwa [List.append_nil] at hread

/-- Two transfers that are skipped on a failure. -/
def Batch.pair : Batch :=
  ⟨[⟨.repeated 1, .twoPow 128 100, "transfer_keep_alive"⟩, ⟨.repeated 2, 64, "transfer_allow_death"⟩], .forceBatch⟩

/-- The call data of the two transfers in the standard runtime. -/
def Batch.pairData : Bytes :=
  [26, 4, 8, 5, 3, 0] ++ List.replicate 32 1 ++ 39 :: (List.replicate 12 0 ++ [16, 5, 0, 0]) ++
    List.replicate 32 2 ++ [1, 1]

theorem Batch.pair_encode : pair.payload.encode (Profile.standard.runtime .standard) = .ok pairData :=
  Outcome.eq_ok_of_toOption (by decide +kernel)

/-- Call data is read completely, and what is read are the pallet, the call of the mode and the transfers in
their order, each with its call, its receiver and its amount. No other batch has the same call data. -/
theorem Batch.callData_faithful {b : Batch} {profile : Profile} {shape : AccountShape} {bytes : Bytes}
    (hlength : b.transfers.length < 2 ^ 32) (h : b.payload.encode (profile.runtime shape) = .ok bytes) :
    (profile.runtime shape).callTy.decode bytes =
        some (.call "Utility" [.call b.mode.callName [.tuple (b.transfers.map fun t =>
          .call "Balances" [.call t.call [.call "Id" [.bytes t.dest.toList], .unsigned t.value]])]], []) ∧
      ∀ (other : Batch) (shape' : AccountShape), other.transfers.length < 2 ^ 32 →
        other.payload.encode (profile.runtime shape') = .ok bytes →
        other.mode = b.mode ∧ other.transfers = b.transfers := by
  have hread := decode_callData hlength h
  constructor
  · rw [Profile.runtime_callTy]
    exact hread
  · intro other shape' hother hbytes
    rw [decode_callData hother hbytes] at hread
    obtain rfl := callValue_injective (congrArg Prod.fst (Option.some.inj hread))
    exact ⟨rfl, rfl⟩

theorem Batch.callData_faithful_pair :
    (Profile.standard.runtime .standard).callTy.decode pairData = some (pair.callValue, []) :=
  (callData_faithful (by decide) pair_encode).1

end Payout
