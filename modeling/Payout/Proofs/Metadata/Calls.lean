import Payout.Metadata.Profile
import Payout.Proofs.Scale.Rejection

/-!
# Call types

The calls of a runtime as one type. A call is found in it by the names of its pallet and of itself, and it
leaves no doubt about what a byte stands for when the pallets have different indices. The three profiles have
such call types, whatever is stored in them. Their transfers take an address or an account and then an amount,
and their batches take a sequence of calls.
-/
namespace Payout.Metadata
open Scale

theorem pallet_eq_ok_iff {m : Metadata} {name : String} {p : Pallet} :
    m.pallet name = .ok p ↔ m.pallets.find? (·.name = name) = some p := by
  unfold pallet
  cases m.pallets.find? (·.name = name) with
  | none => simp
  | some found => simp

theorem call_eq_ok_iff {p : Pallet} {name : String} {index : UInt8} {types : Types} :
    p.call name = .ok (index, types) ↔
      ∃ calls, p.calls = some calls ∧ calls.find? name = some (index, types) := by
  rw [← Option.bind_eq_some_iff, Pallet.call]
  cases p.calls.bind (·.find? name) with
  | none => simp
  | some found => simp

/-- The runtime has a call of these names, and it takes arguments of these types. -/
def Takes (m : Metadata) (pallet call : String) (types : Types) : Prop :=
  ∃ p index, m.pallet pallet = .ok p ∧ p.call call = .ok (index, types)

theorem pallet_of_missing {m : Metadata} {name : String} (h : ∀ p, m.pallet name ≠ .ok p) :
    m.pallet name = .error (.pallet name) := by
  unfold pallet at h ⊢
  split
  · rename_i p hp
    simp [hp] at h
  · rfl

theorem call_of_missing {p : Pallet} {name : String} (h : ∀ found, p.call name ≠ .ok found) :
    p.call name = .error (.call name) := by
  unfold Pallet.call at h ⊢
  split
  · rename_i found hfound
    simp [hfound] at h
  · rfl

/-- A name that no pallet has is the name of no case. -/
theorem find?_callCases_of_notMem {pallets : List Pallet} {name : String}
    (h : name ∉ pallets.map Pallet.name) : (callCases pallets).find? name = none := by
  induction pallets with
  | nil => rfl
  | cons p rest ih =>
    have hname : p.name ≠ name := fun hname => h (by simp [hname])
    have hrest := ih fun hmem => h (by simp [hmem])
    cases hp : p.calls with
    | none => simp only [callCases, hp, hrest]
    | some calls => simp only [callCases, hp, Cases.find?, if_neg hname, hrest]

/-- Where no two pallets have the same name, the cases are the pallets with calls, each under its name. -/
theorem find?_callCases_eq_some_iff {pallets : List Pallet} (hnames : (pallets.map Pallet.name).Nodup)
    {name : String} {index : UInt8} {types : Types} :
    (callCases pallets).find? name = some (index, types) ↔
      ∃ p calls, pallets.find? (·.name = name) = some p ∧ p.calls = some calls ∧ index = p.index ∧
        types = .ofList [.enumeration calls] := by
  induction pallets with
  | nil => simp [callCases, Cases.find?]
  | cons first rest ih =>
    obtain ⟨hnew, hrest⟩ := List.nodup_cons.mp hnames
    by_cases hname : first.name = name
    · cases hfirst : first.calls with
      | some calls => simp [callCases, hfirst, Cases.find?, hname, eq_comm]
      | none =>
        -- A case of the name would be that of a second pallet of the name.
        have hmissing := find?_callCases_of_notMem hnew
        rw [hname] at hmissing
        simp [callCases, hfirst, hmissing, hname]
    · have hlater : (first :: rest).find? (·.name = name) = rest.find? (·.name = name) :=
        List.find?_cons_of_neg (by simpa using hname)
      rw [hlater, ← ih hrest]
      cases hfirst : first.calls with
      | none => simp only [callCases, hfirst]
      | some others => simp only [callCases, hfirst, Cases.find?, if_neg hname]

/-- A call of the runtime is written as its pallet's type of calls takes it, in the one item of the pallet's
case. -/
theorem callTy_encode {m : Metadata} (hnames : (m.pallets.map Pallet.name).Nodup) {pallet : String}
    {p : Pallet} {calls : Cases} (hp : m.pallets.find? (·.name = pallet) = some p)
    (hcalls : p.calls = some calls) (call : String) (arguments : List Value) :
    m.callTy.encode (.call pallet [.call call arguments]) =
      ((calls.encode call arguments).mapError (·.under 0)).map (p.index :: ·) := by
  have hcase := (find?_callCases_eq_some_iff hnames).mpr ⟨p, calls, hp, hcalls, rfl, rfl⟩
  rw [callTy, Value.call, Ty.encode, Cases.encode_of_find? _ hcase, Types.encodeAll_singleton]
  simp only [Value.call, Ty.encode]

theorem hasIndex_callCases {pallets : List Pallet} {index : UInt8}
    (h : (callCases pallets).hasIndex index = true) : index ∈ pallets.map Pallet.index := by
  induction pallets with
  | nil => cases h
  | cons p rest ih =>
    unfold callCases at h
    split at h
    · simp only [Cases.hasIndex, Bool.or_eq_true, decide_eq_true_eq] at h
      rcases h with rfl | h
      · exact List.mem_cons_self
      · exact List.mem_cons_of_mem _ (ih h)
    · exact List.mem_cons_of_mem _ (ih h)

theorem callCases_regular {pallets : List Pallet} (hindex : (pallets.map Pallet.index).Nodup)
    (hcalls : ∀ p ∈ pallets, ∀ calls, p.calls = some calls → calls.Regular) :
    (callCases pallets).Regular := by
  induction pallets with
  | nil => exact ⟨trivial, trivial⟩
  | cons p rest ih =>
    obtain ⟨hnew, hrest⟩ := List.nodup_cons.mp hindex
    obtain ⟨hwf, hunlabelled⟩ := ih hrest fun q hq => hcalls q (List.mem_cons_of_mem _ hq)
    unfold callCases
    split
    · rename_i calls hp
      have hfresh : (callCases rest).hasIndex p.index = false := by
        rw [← Bool.not_eq_true]
        intro h
        exact hnew (hasIndex_callCases h)
      obtain ⟨hcallsWf, hcallsUnlabelled⟩ := hcalls p List.mem_cons_self calls hp
      constructor
      · refine ⟨hfresh, Types.wellFormed_ofList.mpr ?_, hwf⟩
        simpa [Ty.WellFormed] using hcallsWf
      · refine ⟨rfl, Types.unlabelled_ofList.mpr ?_, hunlabelled⟩
        simpa [Ty.Unlabelled] using hcallsUnlabelled
    · exact ⟨hwf, hunlabelled⟩

/-- The type is an enumeration with a case for an account. -/
def IsAddressTy (t : Ty) : Prop :=
  ∃ cases index, t = .enumeration cases ∧ cases.find? "Id" = some (index, .ofList [accountTy])

/-- An account is written as its bytes. -/
theorem accountTy_encode (account : AccountId) : accountTy.encode (.bytes account.toList) = .ok account.toList := by
  have hlength : (account.toList.map Value.byte).length = 32 := by
    rw [List.length_map, account.length_toList]
  simp only [accountTy, Value.bytes, Value.tuple, Ty.encode, if_pos hlength]
  exact encodeItems_bytes account.toList 0

namespace Profile

/-- The calls of the pallets of a profile. -/
theorem wrapping_calls {profile : Profile} {shape : AccountShape} {inner : Ty} {p : Pallet} {calls : Cases}
    (hp : p ∈ (profile.wrapping shape inner).pallets) (hcalls : p.calls = some calls) :
    calls = systemCalls ∨ calls = balancesCalls ∨ calls = legacyBalancesCalls ∨
      calls = utilityCalls inner ∨ calls = legacyUtilityCalls inner := by
  cases profile with
  | _ =>
    simp only [wrapping, List.mem_cons, List.not_mem_nil, or_false] at hp
    rcases hp with rfl | rfl | rfl | rfl <;> cases hcalls <;> simp

theorem wrapping_indices (profile : Profile) (shape : AccountShape) (inner : Ty) :
    ((profile.wrapping shape inner).pallets.map Pallet.index).Nodup := by
  cases profile with
  | _ => simp [wrapping, systemPallet, balancesPallet, demoPallet, utilityPallet]

theorem wrapping_names (profile : Profile) (shape : AccountShape) (inner : Ty) :
    ((profile.wrapping shape inner).pallets.map Pallet.name).Nodup := by
  cases profile with
  | _ => simp [wrapping, systemPallet, balancesPallet, demoPallet, utilityPallet]

/-- What is stored about accounts makes no difference to the calls. -/
theorem runtime_callTy (profile : Profile) (shape : AccountShape) :
    (profile.runtime shape).callTy = profile.callTy (nesting + 1) := by
  cases profile with
  | _ => rfl

theorem addressTy_regular : addressTy.Regular := by
  refine Cases.regular_ofList (by simp) ?_
  simp [Ty.Regular, Ty.WellFormed, Ty.Unlabelled, accountTy, Ty.bytes, Ty.unit, Ty.tuple,
    Types.wellFormed_ofList, Types.unlabelled_ofList]

theorem legacyAddressTy_regular : legacyAddressTy.Regular := by
  refine Cases.regular_ofList (by simp) ?_
  simp [Ty.Regular, Ty.WellFormed, Ty.Unlabelled, accountTy]

/-- The calls of a profile are regular, however deep they wrap one another. -/
theorem callTy_regular (profile : Profile) (depth : Nat) : (profile.callTy depth).Regular := by
  have haddress := addressTy_regular
  have hlegacy := legacyAddressTy_regular
  simp only [Ty.Regular] at haddress hlegacy
  induction depth with
  | zero => exact ⟨trivial, trivial⟩
  | succ depth ih =>
    refine callCases_regular (wrapping_indices _ _ _) fun p hp calls hcalls => ?_
    rcases wrapping_calls hp hcalls with rfl | rfl | rfl | rfl | rfl
    all_goals refine Cases.regular_ofList (by simp) ?_
    · simp [Ty.Regular, Ty.bytes, Ty.WellFormed, Ty.Unlabelled]
    · simp [Ty.Regular, haddress, Ty.bytes, Ty.WellFormed, Ty.Unlabelled, accountTy, balanceTy]
    · simp [Ty.Regular, hlegacy, Ty.WellFormed, Ty.Unlabelled, balanceTy]
    · simpa [Ty.Regular, Ty.WellFormed, Ty.Unlabelled] using ih
    · simpa [Ty.Regular, Ty.WellFormed, Ty.Unlabelled] using ih

section Arguments

variable {profile : Profile} {shape : AccountShape} {call : String} {types : Types}

/-- The calls of the balances pallet of a profile. -/
def transferCalls : Profile → Cases
  | legacy => legacyBalancesCalls
  | _ => balancesCalls

theorem find?_balances (profile : Profile) (shape : AccountShape) (inner : Ty) :
    ∃ p, (profile.wrapping shape inner).pallets.find? (·.name = "Balances") = some p ∧
      p.calls = some profile.transferCalls := by
  cases profile with
  | _ => exact ⟨_, rfl, rfl⟩

theorem takes_balances_iff :
    (profile.runtime shape).Takes "Balances" call types ↔
      ∃ index, profile.transferCalls.find? call = some (index, types) := by
  obtain ⟨p, hfind, hcalls⟩ := find?_balances profile shape (profile.callTy nesting)
  have hp : (profile.runtime shape).pallet "Balances" = .ok p := pallet_eq_ok_iff.mpr hfind
  constructor
  · intro h
    obtain ⟨q, index, hq, hcall⟩ := h
    obtain rfl := Except.ok.inj (hp.symm.trans hq)
    obtain ⟨calls, hsome, hindex⟩ := call_eq_ok_iff.mp hcall
    obtain rfl := Option.some.inj (hcalls.symm.trans hsome)
    exact ⟨index, hindex⟩
  · intro h
    obtain ⟨index, hindex⟩ := h
    exact ⟨p, index, hp, call_eq_ok_iff.mpr ⟨_, hcalls, hindex⟩⟩

/-- The transfers of a profile that have two arguments take an address or an account, and then a number, a
truth value or bytes. -/
theorem arguments_of_takes {dest amount : Ty}
    (h : (profile.runtime shape).Takes "Balances" call (.ofList [dest, amount])) :
    (IsAddressTy dest ∨ dest = accountTy) ∧
      ((∃ width, amount.IsUnsigned width) ∨ amount = .bool ∨ amount = .bytes) := by
  have haddress : IsAddressTy addressTy := ⟨_, _, rfl, rfl⟩
  have hlegacy : IsAddressTy legacyAddressTy := ⟨_, _, rfl, rfl⟩
  obtain ⟨index, hindex⟩ := takes_balances_iff.mp h
  cases profile with
  | _ =>
    obtain ⟨c, hmem, -, hitems⟩ := Cases.exists_of_find?_ofList hindex
    simp only [List.mem_cons, List.not_mem_nil, or_false] at hmem
    rcases hmem with rfl | rfl | rfl | rfl | rfl | rfl | rfl | rfl | rfl
    all_goals simp_all [Types.ofList, Ty.IsUnsigned, balanceTy]

/-- The calls of the utility pallet of a profile wrap a sequence of calls. -/
theorem utility_of_takes (h : (profile.runtime shape).Takes "Utility" call types) :
    types = .ofList [.sequence (profile.callTy nesting)] := by
  obtain ⟨p, index, hp, hcall⟩ := h
  obtain ⟨calls, hcalls, hindex⟩ := call_eq_ok_iff.mp hcall
  rw [pallet_eq_ok_iff] at hp
  cases profile with
  | bare => cases hp
  | _ =>
    obtain rfl := Option.some.inj hp
    obtain rfl := Option.some.inj hcalls
    obtain ⟨c, hmem, -, hitems⟩ := Cases.exists_of_find?_ofList hindex
    simp only [List.mem_cons, List.not_mem_nil, or_false] at hmem
    rcases hmem with rfl | rfl | rfl <;> exact hitems

end Arguments

end Profile
end Payout.Metadata
