import Payout.Proofs.Metadata.Calls
import Payout.Query

/-!
# Free balances

What is stored about an account is read as the type that the runtime gives for it. Where that is a record with a
record under `data` that has an unsigned number of at most 128 bits under `free`, the answer is that number, or zero
if nothing is stored; no other entry, and no other part of this one, makes a difference. Where it is anything else,
also where the number is of a wider type, what is stored is reported as zero.
-/
namespace Payout
open Metadata (AccountShape Profile StorageEntry accountTy)
open Scale (Ty Types Value)

namespace Scale

/-- The type is a record, and this is the type under a label of it. -/
def Ty.HasField (t : Ty) (label : String) (u : Ty) : Prop :=
  ∃ fields, t = .record fields ∧ fields.lookup label = some u

/-- The number of an unsigned value of any width. -/
def Value.number? : Value → Option Nat
  | .unsigned n => some n.toNat
  | .wide false bytes => some (Bytes.toNat bytes)
  | _ => none

/-- The value has a part `data`, and this is the part `free` of it. -/
def Value.FreeIs (v free : Value) : Prop :=
  ∃ data, v.field? "data" = some data ∧ data.field? "free" = some free

/-- The value has a part `data` with an unsigned number `free` that fits a balance. -/
def Value.HasFree (v : Value) (n : Balance) : Prop :=
  v.FreeIs (.unsigned n)

/-- The value has a part `data` with an unsigned number `free`, be it too wide for a balance or not. -/
def Value.HasFreeNumber (v : Value) (k : Nat) : Prop :=
  ∃ free, v.FreeIs free ∧ free.number? = some k

/-- The items of a record that was read are found under their labels. -/
theorem Types.lookup_of_decode {fields : List (String × Ty)} {bytes rest : Bytes} {items : List Value}
    (h : (Types.ofList (fields.map Prod.snd)).decode bytes = some (items, rest)) {label : String} {u : Ty}
    (hu : fields.lookup label = some u) :
    ∃ v front back, ((fields.map Prod.fst).zip items).lookup label = some v ∧ u.decode front = some (v, back) := by
  induction fields generalizing bytes items with
  | nil => cases hu
  | cons field fields ih =>
    obtain ⟨name, t⟩ := field
    obtain ⟨⟨v, middle⟩, hfirst, h⟩ := Option.bind_eq_some_iff.mp h
    obtain ⟨⟨others, last⟩, hothers, h⟩ := Option.bind_eq_some_iff.mp h
    obtain ⟨rfl, rfl⟩ := Prod.mk.inj (Option.some.inj h)
    by_cases hname : label = name
    · subst hname
      obtain rfl : t = u := by simpa using hu
      exact ⟨v, bytes, middle, by simp, hfirst⟩
    · have hbeq : (label == name) = false := beq_eq_false_iff_ne.mpr hname
      rw [List.lookup_cons, hbeq] at hu
      obtain ⟨w, front, back, hw, hdecode⟩ := ih hothers hu
      refine ⟨w, front, back, ?_, hdecode⟩
      rw [List.map_cons, List.zip_cons_cons, List.lookup_cons, hbeq]
      exact hw

theorem Ty.HasField.of_decode {t u : Ty} {label : String} (ht : t.HasField label u) {bytes rest : Bytes} {v : Value}
    (h : t.decode bytes = some (v, rest)) :
    ∃ w front back, v.field? label = some w ∧ u.decode front = some (w, back) := by
  obtain ⟨fields, rfl, hu⟩ := ht
  obtain ⟨⟨items, after⟩, hitems, h⟩ := Option.bind_eq_some_iff.mp h
  obtain ⟨rfl, rfl⟩ := Prod.mk.inj (Option.some.inj h)
  exact Types.lookup_of_decode hitems hu

/-- What is read as an unsigned number is a number of 128 bits, or the bytes of a wider one. -/
theorem Ty.of_decode_number {t : Ty} {width : Nat} (ht : t = .unsigned width ∨ t = .compact width)
    {bytes rest : Bytes} {v : Value} (h : t.decode bytes = some (v, rest)) :
    (width ≤ 16 ∧ ∃ n : BitVec 128, n.toNat < Bytes.bound width ∧ v = .unsigned n) ∨
      (16 < width ∧ ∃ body : Bytes, body.length = width ∧ v = .wide false body) := by
  have hself {k : Nat} (hk : k < Bytes.bound width) : (BitVec.ofNat 128 k).toNat < Bytes.bound width :=
    Nat.lt_of_le_of_lt (Nat.mod_le _ _) hk
  rcases ht with rfl | rfl
  · obtain ⟨⟨body, after⟩, hsplit, h⟩ := Option.bind_eq_some_iff.mp h
    obtain ⟨rfl, rfl⟩ := Prod.mk.inj (Option.some.inj h)
    obtain ⟨rfl, -⟩ := Bytes.split?_eq_some_iff.mp hsplit
    rcases Nat.lt_or_ge 16 body.length with hw | hw
    · exact .inr ⟨hw, body, rfl, if_neg (Nat.not_le.mpr hw)⟩
    · exact .inl ⟨hw, _, hself (Bytes.toNat_lt body), if_pos hw⟩
  · -- a compact number of more than 128 bits is not read at all
    obtain ⟨⟨n, after⟩, hread, h⟩ := Option.bind_eq_some_iff.mp h
    obtain ⟨hw, h⟩ := Option.ite_none_right_eq_some.mp h
    obtain ⟨rfl, rfl⟩ := Prod.mk.inj (Option.some.inj h)
    exact .inl ⟨hw, _, hself (Compact.decodeBelow_eq_some_iff.mp hread).2, rfl⟩

theorem Value.FreeIs.unique {v f g : Value} (hf : v.FreeIs f) (hg : v.FreeIs g) : f = g := by
  obtain ⟨data, hdata, hfree⟩ := hf
  obtain ⟨same, hsame, hfree'⟩ := hg
  obtain rfl := Option.some.inj (hdata.symm.trans hsame)
  exact Option.some.inj (hfree.symm.trans hfree')

theorem Value.HasFree.unique {v : Value} {m n : Balance} (hm : v.HasFree m) (hn : v.HasFree n) : m = n :=
  Value.unsigned.inj (FreeIs.unique hm hn)

/-- A balance is a number. -/
theorem Value.HasFree.hasFreeNumber {v : Value} {n : Balance} (h : v.HasFree n) : v.HasFreeNumber n.toNat :=
  ⟨_, h, rfl⟩

end Scale

/-- The runtime stores something of this type about accounts. -/
def Metadata.KeepsAccounts (m : Metadata) (ty : Ty) : Prop :=
  ∃ p e, m.pallet "System" = .ok p ∧ p.entry "Account" = .ok e ∧ e.keys = [accountTy] ∧ e.value = ty

/-- The runtime stores a record about accounts, with a record under `data` in which an unsigned number of some width
is under `free`. -/
def Metadata.KeepsBalances (m : Metadata) (ty : Ty) (width : Nat) : Prop :=
  m.KeepsAccounts ty ∧ ∃ data free, ty.HasField "data" data ∧ data.HasField "free" free ∧
    (free = .unsigned width ∨ free = .compact width)

/-- Where something is stored about an account. -/
def accountKey (account : AccountId) : StorageKey :=
  ⟨"System", "Account", [account.toList]⟩

/-- What is stored under a key after a block is read as the value. -/
def Node.Stores (n : Node) (block : BlockHash) (key : StorageKey) (ty : Ty) (v : Value) : Prop :=
  ∃ bytes rest, n.stored block key = .ok (some bytes) ∧ ty.decode bytes = some (v, rest)

theorem accountKey_injective {a b : AccountId} (h : accountKey a = accountKey b) : a = b := by
  simp only [accountKey, StorageKey.mk.injEq, List.cons.injEq, true_and, and_true] at h
  exact Bytes32.ext h

/-- A record of an account that was read has a number in the place of a balance. -/
theorem Metadata.KeepsBalances.freeIs {m : Metadata} {ty : Ty} {width : Nat} (hm : m.KeepsBalances ty width)
    {bytes rest : Bytes} {v : Value} (h : ty.decode bytes = some (v, rest)) :
    ∃ free, v.FreeIs free ∧
      ((width ≤ 16 ∧ ∃ n : Balance, n.toNat < Bytes.bound width ∧ free = .unsigned n) ∨
        (16 < width ∧ ∃ body : Bytes, body.length = width ∧ free = .wide false body)) := by
  obtain ⟨-, data, free, hdata, hfree, hnumber⟩ := hm
  obtain ⟨d, _, _, hd, hread⟩ := hdata.of_decode h
  obtain ⟨f, _, _, hf, hread⟩ := hfree.of_decode hread
  exact ⟨f, ⟨d, hd, hf⟩, Ty.of_decode_number hnumber hread⟩

theorem Metadata.KeepsBalances.hasFree {m : Metadata} {ty : Ty} {width : Nat} (hm : m.KeepsBalances ty width)
    (hw : width ≤ 16) {bytes rest : Bytes} {v : Value} (h : ty.decode bytes = some (v, rest)) :
    ∃ n : Balance, n.toNat < Bytes.bound width ∧ v.HasFree n := by
  obtain ⟨free, hfree, ⟨-, n, hn, rfl⟩ | ⟨hwide, -⟩⟩ := hm.freeIs h
  · exact ⟨n, hn, hfree⟩
  · omega

/-- A number that is too wide for a balance is none, however small it is. -/
theorem Metadata.KeepsBalances.not_hasFree {m : Metadata} {ty : Ty} {width : Nat} (hm : m.KeepsBalances ty width)
    (hw : 16 < width) {bytes rest : Bytes} {v : Value} (h : ty.decode bytes = some (v, rest)) :
    (∃ k < Bytes.bound width, v.HasFreeNumber k) ∧ ∀ n, ¬ v.HasFree n := by
  obtain ⟨free, hfree, ⟨hnarrow, -⟩ | ⟨-, body, rfl, rfl⟩⟩ := hm.freeIs h
  · omega
  · refine ⟨⟨_, Bytes.toNat_lt body, _, hfree, rfl⟩, fun n hn => ?_⟩
    cases hfree.unique hn

theorem Node.Stores.unique {n : Node} {block : BlockHash} {key : StorageKey} {ty : Ty} {v w : Value}
    (hv : n.Stores block key ty v) (hw : n.Stores block key ty w) : v = w := by
  obtain ⟨bytes, rest, hentry, hread⟩ := hv
  obtain ⟨same, after, hsame, hread'⟩ := hw
  obtain rfl := Option.some.inj (Except.ok.inj (hentry.symm.trans hsame))
  exact (Prod.mk.inj (Option.some.inj (hread.symm.trans hread'))).1

theorem Node.Stores.stored_ne_none {n : Node} {block : BlockHash} {key : StorageKey} {ty : Ty} {v : Value}
    (h : n.Stores block key ty v) : n.stored block key ≠ .ok none := by
  obtain ⟨bytes, rest, hentry, -⟩ := h
  simp [hentry]

namespace Metadata

/-- The runtimes that keep balances, and the bytes that a balance may take in them. -/
theorem runtime_keepsBalances (profile : Profile) {shape : AccountShape} {width : Nat}
    (h : (shape, width) ∈ [(AccountShape.standard, 16), (.u64, 8), (.compact, 16)]) :
    (profile.runtime shape).KeepsBalances (accountInfoTy shape) width := by
  have hkeeps : (profile.runtime shape).KeepsAccounts (accountInfoTy shape) := by
    cases profile with
    | standard => exact ⟨_, _, rfl, rfl, rfl, rfl⟩
    | legacy => exact ⟨_, _, rfl, rfl, rfl, rfl⟩
    | bare => exact ⟨_, _, rfl, rfl, rfl, rfl⟩
  simp only [List.mem_cons, Prod.mk.injEq, List.not_mem_nil, or_false] at h
  rcases h with ⟨rfl, rfl⟩ | ⟨rfl, rfl⟩ | ⟨rfl, rfl⟩
  · exact ⟨hkeeps, _, _, ⟨_, rfl, rfl⟩, ⟨_, rfl, rfl⟩, .inl rfl⟩
  · exact ⟨hkeeps, _, _, ⟨_, rfl, rfl⟩, ⟨_, rfl, rfl⟩, .inl rfl⟩
  · exact ⟨hkeeps, _, _, ⟨_, rfl, rfl⟩, ⟨_, rfl, rfl⟩, .inr rfl⟩

end Metadata

namespace Client

variable {c : Client} {ty : Ty} {account : AccountId} {block : BlockHash}

theorem freeOf_of_hasFree {v : Value} {n : Balance} (h : v.HasFree n) : freeOf (some v) = n := by
  obtain ⟨data, hdata, hfree⟩ := h
  simp [freeOf, hdata, hfree, Value.unsigned?]

theorem freeOf_of_not_hasFree {v : Value} (h : ∀ n, ¬ v.HasFree n) : freeOf (some v) = 0 := by
  unfold freeOf
  rw [Option.bind_some]
  cases hdata : v.field? "data" with
  | none => rfl
  | some data =>
    rw [Option.bind_some]
    cases hfree : data.field? "free" with
    | none => rfl
    | some free =>
      cases free with
      | unsigned n => exact absurd ⟨data, hdata, hfree⟩ (h n)
      | _ => rfl

theorem freeOf_eq_zero_iff {v : Value} : freeOf (some v) = 0 ↔ v.HasFree 0 ∨ ∀ n, ¬ v.HasFree n := by
  constructor
  · intro h
    by_cases hsome : ∃ n, v.HasFree n
    · obtain ⟨n, hn⟩ := hsome
      rw [freeOf_of_hasFree hn] at h
      exact .inl (h ▸ hn)
    · exact .inr (not_exists.mp hsome)
  · intro h
    cases h with
    | inl hzero => exact freeOf_of_hasFree hzero
    | inr hnone => exact freeOf_of_not_hasFree hnone

theorem storageKey_account (hm : c.metadata.KeepsAccounts ty) (account : AccountId) :
    c.storageKey "System" "Account" [.bytes account.toList] = .ok (accountKey account, ty) := by
  obtain ⟨p, e, hp, he, hkeys, rfl⟩ := hm
  simp only [storageKey, hp, he, hkeys, Except.mapError, bind, Except.bind]
  simp [Metadata.accountTy_encode, accountKey, bind, Except.bind, pure, Except.pure]

/-- The answer for an account by what is stored about it. -/
theorem freeBalance_eq (hm : c.metadata.KeepsAccounts ty) (account : AccountId) (block : BlockHash) :
    c.freeBalance account (some block) =
      match c.node.stored block (accountKey account) with
      | .error e => .error e
      | .ok none => .ok 0
      | .ok (some bytes) =>
        match ty.decode bytes with
        | some (v, _) => .ok (freeOf (some v))
        | none => .error .decode := by
  unfold freeBalance storedValue blockToQuery
  rw [storageKey_account hm account]
  simp only [bind, Except.bind]
  cases c.node.stored block (accountKey account) with
  | error e => rfl
  | ok entry =>
    cases entry with
    | none => rfl
    | some bytes =>
      cases hread : ty.decode bytes with
      | none => simp only [hread]; rfl
      | some read => simp only [hread]; rfl

theorem freeBalance_of_refused (hm : c.metadata.KeepsAccounts ty) {e : ClientError}
    (h : c.node.stored block (accountKey account) = .error e) : c.freeBalance account (some block) = .error e := by
  simp only [freeBalance_eq hm, h]

theorem freeBalance_of_absent (hm : c.metadata.KeepsAccounts ty)
    (h : c.node.stored block (accountKey account) = .ok none) : c.freeBalance account (some block) = .ok 0 := by
  simp only [freeBalance_eq hm, h]

theorem freeBalance_of_stores (hm : c.metadata.KeepsAccounts ty) {v : Value}
    (h : c.node.Stores block (accountKey account) ty v) :
    c.freeBalance account (some block) = .ok (freeOf (some v)) := by
  obtain ⟨bytes, rest, hentry, hread⟩ := h
  simp only [freeBalance_eq hm, hentry, hread]

theorem freeBalance_of_unreadable (hm : c.metadata.KeepsAccounts ty) {bytes : Bytes}
    (hentry : c.node.stored block (accountKey account) = .ok (some bytes)) (hread : ty.decode bytes = none) :
    c.freeBalance account (some block) = .error .decode := by
  simp only [freeBalance_eq hm, hentry, hread]

/-- A zero tells that nothing is stored, or that what is stored has a balance of zero or none at all. -/
theorem freeBalance_eq_zero_iff (hm : c.metadata.KeepsAccounts ty) :
    c.freeBalance account (some block) = .ok 0 ↔ c.node.stored block (accountKey account) = .ok none ∨
      ∃ v, c.node.Stores block (accountKey account) ty v ∧ (v.HasFree 0 ∨ ∀ n, ¬ v.HasFree n) := by
  constructor
  · intro h
    cases hentry : c.node.stored block (accountKey account) with
    | error e =>
      rw [freeBalance_of_refused hm hentry] at h
      cases h
    | ok entry =>
      cases entry with
      | none => exact .inl rfl
      | some bytes =>
        cases hread : ty.decode bytes with
        | none =>
          rw [freeBalance_of_unreadable hm hentry hread] at h
          cases h
        | some read =>
          have hstores : c.node.Stores block (accountKey account) ty read.1 := ⟨bytes, read.2, hentry, hread⟩
          rw [freeBalance_of_stores hm hstores] at h
          exact .inr ⟨_, hstores, freeOf_eq_zero_iff.mp (Except.ok.inj h)⟩
  · intro h
    rcases h with habsent | ⟨v, hv, hfree⟩
    · exact freeBalance_of_absent hm habsent
    · rw [freeBalance_of_stores hm hv, freeOf_eq_zero_iff.mpr hfree]

/-- A client of a node that stores two accounts after its best block. -/
def storingClient (metadata : Metadata) (first second : Bytes) : Client where
  node :=
    { refused := []
      genesis := .ok .zero
      metadata := .ok metadata
      best := .repeated 7
      nonce := 0
      blocks := [(.repeated 7, ⟨.ok none, .ok none,
        .ok ⟨[], [(accountKey (.repeated 1), first), (accountKey (.repeated 2), second)]⟩⟩)]
      elsewhere := .error .rpc }
  genesis := .zero
  metadata := metadata

/-- An account that has signed once, with the largest balance there is. -/
def richAccount : Bytes :=
  1 :: 0 :: 0 :: 0 :: (List.replicate 16 255 ++ List.replicate 48 0)

/-- The other account has neither signed nor a balance. -/
def richClient : Client :=
  storingClient (Profile.standard.runtime .standard) (List.replicate 68 0) richAccount

/-- A record of an account with a balance of 256 bits. -/
def wideInfoTy : Ty :=
  .record [("nonce", .unsigned 4), ("data", .record [("free", .unsigned 32)])]

/-- The account has signed once, and has five. -/
def wideInfo : Value :=
  .composite ["nonce", "data"] [.unsigned 1, .composite ["free"] [.wide false (Bytes.ofNat 32 5)]]

def wideAccount : Bytes :=
  Bytes.ofNat 4 1 ++ Bytes.ofNat 32 5

def wideClient : Client :=
  storingClient ⟨[⟨"System", 0, none, some [⟨"Account", [accountTy], wideInfoTy⟩], .nil, []⟩]⟩ [] wideAccount

theorem wideInfo_encode : wideInfoTy.encode wideInfo = .ok wideAccount :=
  Outcome.eq_ok_of_toOption (by decide +kernel)

/-- The answer is zero if nothing is stored about an account, and also if what is stored has no unsigned number under
`data` and `free` that fits a balance, as well as if that number is zero. So a zero tells that the account is unknown
or has nothing exactly where what can be read about it has such a number, or a wider one that is zero. -/
theorem freeBalance_zero_iff (hm : c.metadata.KeepsAccounts ty) (account : AccountId) (block : BlockHash) :
    (c.freeBalance account (some block) = .ok 0 ↔ c.node.stored block (accountKey account) = .ok none ∨
        ∃ v, c.node.Stores block (accountKey account) ty v ∧ (v.HasFree 0 ∨ ∀ n, ¬ v.HasFree n)) ∧
    ((c.freeBalance account (some block) = .ok 0 → c.node.stored block (accountKey account) = .ok none ∨
        ∃ v, c.node.Stores block (accountKey account) ty v ∧ v.HasFreeNumber 0) ↔
      ∀ v, c.node.Stores block (accountKey account) ty v → (∃ n, v.HasFree n) ∨ v.HasFreeNumber 0) := by
  refine ⟨freeBalance_eq_zero_iff hm, ?_⟩
  rw [freeBalance_eq_zero_iff hm]
  constructor
  · intro h v hv
    by_cases hsome : ∃ n, v.HasFree n
    · exact .inl hsome
    · rcases h (.inr ⟨v, hv, .inr (not_exists.mp hsome)⟩) with habsent | ⟨w, hw, hzero⟩
      · exact absurd habsent hv.stored_ne_none
      · exact .inr (hv.unique hw ▸ hzero)
  · intro hfree h
    rcases h with habsent | ⟨v, hv, hzero | hnone⟩
    · exact .inl habsent
    · exact .inr ⟨v, hv, hzero.hasFreeNumber⟩
    · rcases hfree v hv with ⟨n, hn⟩ | hzero
      · exact absurd hn (hnone n)
      · exact .inr ⟨v, hv, hzero⟩

/-- An account of a runtime that keeps two numbers without names. -/
def unnamedAccount : Bytes :=
  1 :: 0 :: 0 :: 0 :: (List.replicate 16 5 ++ List.replicate 16 6)

def unnamedClient : Client :=
  storingClient (Profile.standard.runtime .tuple) unnamedAccount unnamedAccount

/-- What is stored about the account is read, and nothing is in the place of a balance. -/
theorem unnamedAccount_stores :
    ∃ v, unnamedClient.node.Stores (.repeated 7) (accountKey (.repeated 2))
      (Metadata.accountInfoTy .tuple) v ∧ ∀ free, ¬ v.FreeIs free := by
  refine ⟨_, ⟨unnamedAccount, [], rfl, rfl⟩, ?_⟩
  intro free h
  obtain ⟨data, hdata, hfree⟩ := h
  obtain rfl := Option.some.inj hdata
  cases hfree

theorem tuple_keepsAccounts :
    unnamedClient.metadata.KeepsAccounts (Metadata.accountInfoTy .tuple) :=
  ⟨_, _, rfl, rfl, rfl, rfl⟩

theorem freeBalance_zero_iff_unnamed :
    unnamedClient.freeBalance (.repeated 2) (some (.repeated 7)) = .ok 0 ∧
      ∃ v, unnamedClient.node.Stores (.repeated 7) (accountKey (.repeated 2))
        (Metadata.accountInfoTy .tuple) v := by
  obtain ⟨v, hv, hnone⟩ := unnamedAccount_stores
  have hspec := freeBalance_zero_iff tuple_keepsAccounts (.repeated 2) (.repeated 7)
  exact ⟨hspec.1.mpr (.inr ⟨v, hv, .inr fun n => hnone _⟩), v, hv⟩

/-- Something is stored about an account and is read, but no balance is in it; yet the answer is that of an account
that has nothing. -/
theorem freeBalance_hides_unnamed :
    ¬ (unnamedClient.freeBalance (.repeated 2) (some (.repeated 7)) = .ok 0 →
      unnamedClient.node.stored (.repeated 7) (accountKey (.repeated 2)) = .ok none ∨
        ∃ v, unnamedClient.node.Stores (.repeated 7) (accountKey (.repeated 2))
          (Metadata.accountInfoTy .tuple) v ∧ v.HasFreeNumber 0) := by
  intro h
  obtain ⟨v, hv, hnone⟩ := unnamedAccount_stores
  have hzero : unnamedClient.freeBalance (.repeated 2) (some (.repeated 7)) = .ok 0 := by
    rw [freeBalance_of_stores tuple_keepsAccounts hv, freeOf_of_not_hasFree fun n => hnone _]
  rcases h hzero with habsent | ⟨w, hw, free, hfree, -⟩
  · exact absurd habsent hv.stored_ne_none
  · exact hnone free (hv.unique hw ▸ hfree)

end Client
end Payout
