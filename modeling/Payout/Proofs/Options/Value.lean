import Payout.Options.Config
import Payout.Proofs.Numeral
import Payout.Proofs.Outcome

/-!
# What settings are set to

Texts are taken as they are, numbers by their numerals, modes and statuses by the words that are joined in one of two
ways. Setting one setting leaves all others as they are. The number of transfers in a batch is never zero, and what is
wrong with a text for it is decided from the left.
-/
namespace Payout

/-- The texts of a mode. -/
def BatchMode.spellings : BatchMode → List String
  | batch => ["batch"]
  | batchAll => ["batch-all", "batch_all"]
  | forceBatch => ["force-batch", "force_batch"]

theorem BatchMode.ofText?_eq_some_iff {text : String} {mode : BatchMode} :
    ofText? text = some mode ↔ text ∈ mode.spellings := by
  unfold ofText?
  constructor
  · intro h
    split_ifs at h
    · cases h
      simp_all [spellings]
    · cases h
      simp_all [spellings]
    · cases h
      simp_all [spellings]
  · intro h
    cases mode with
    | batch => simp_all [spellings]
    | batchAll =>
      simp only [spellings, List.mem_cons, List.not_mem_nil, or_false] at h
      rcases h with rfl | rfl
      · decide
      · decide
    | forceBatch =>
      simp only [spellings, List.mem_cons, List.not_mem_nil, or_false] at h
      rcases h with rfl | rfl
      · decide
      · decide

/-- The texts of a status to wait for. -/
def WaitFor.spellings : WaitFor → List String
  | inBlock => ["in-block", "in_block"]
  | finalized => ["finalized"]

theorem WaitFor.ofText?_eq_some_iff {text : String} {status : WaitFor} :
    ofText? text = some status ↔ text ∈ status.spellings := by
  unfold ofText?
  constructor
  · intro h
    split_ifs at h
    · cases h
      simp_all [spellings]
    · cases h
      simp_all [spellings]
  · intro h
    cases status with
    | inBlock => simp_all [spellings]
    | finalized =>
      simp only [spellings, List.mem_cons, List.not_mem_nil, or_false] at h
      rw [h]
      decide

namespace Options

section Readers

variable {text : String}

theorem readMode_eq_ok_iff {mode : BatchMode} : readMode text = .ok mode ↔ text ∈ mode.spellings := by
  rw [← BatchMode.ofText?_eq_some_iff]
  unfold readMode
  split
  · simp [*]
  · simp [*]

theorem readStatus_eq_ok_iff {status : WaitFor} : readStatus text = .ok status ↔ text ∈ status.spellings := by
  rw [← WaitFor.ofText?_eq_some_iff]
  unfold readStatus
  split
  · simp [*]
  · simp [*]

theorem readNumber_eq_ok_iff {width n : Nat} :
    readNumber width text = .ok n ↔ Numeral.Spells text.toList n ∧ n ≤ Bytes.bound width - 1 := by
  rw [readNumber, Outcome.mapError_eq_ok_iff, Numeral.read_eq_ok_iff]

/-- A batch has at least one transfer, and its size fits a word of 64 bits. -/
theorem readBatchSize_eq_ok_iff {n : Nat} :
    readBatchSize text = .ok n ↔ Numeral.Spells text.toList n ∧ 1 ≤ n ∧ n ≤ 2 ^ 64 - 1 := by
  have hread : Numeral.read (Bytes.bound 8 - 1) text.toList = .ok n ↔
      Numeral.Spells text.toList n ∧ n ≤ 2 ^ 64 - 1 := Numeral.read_eq_ok_iff
  unfold readBatchSize
  constructor
  · intro h
    split at h
    · cases h
    · rename_i m hpos hm
      obtain rfl := Except.ok.inj h
      have hspells := hread.mp hm
      exact ⟨hspells.1, Nat.one_le_iff_ne_zero.mpr hpos, hspells.2⟩
    · cases h
  · rintro ⟨hspells, hpos, hle⟩
    rw [hread.mpr ⟨hspells, hle⟩]
    cases n with
    | zero => cases hpos
    | succ n => rfl

theorem readBatchSize_eq_emptyBatch_iff : readBatchSize text = .error .emptyBatch ↔ Numeral.Spells text.toList 0 := by
  have hread : Numeral.read (Bytes.bound 8 - 1) text.toList = .ok 0 ↔ Numeral.Spells text.toList 0 := by
    rw [Numeral.read_eq_ok_iff]
    exact and_iff_left (Nat.zero_le _)
  rw [← hread]
  unfold readBatchSize
  split
  · simp [*]
  · rename_i hpos hn
    simpa [hn] using hpos
  · simp [*]

/-- The other complaints are those about the numeral. -/
theorem readBatchSize_eq_numeral_iff {e : NumeralError} :
    readBatchSize text = .error (.numeral e) ↔ Numeral.read (2 ^ 64 - 1) text.toList = .error e := by
  change _ ↔ Numeral.read (Bytes.bound 8 - 1) text.toList = .error e
  unfold readBatchSize
  split
  · simp [*]
  · simp [*]
  · simp [*]

/-- Reads the number of transfers in a batch into a word. -/
def readBatchWord (text : String) : Except ValueError UInt64 :=
  match Numeral.readWord text.toList with
  | .ok n => if n = 0 then .error .emptyBatch else .ok n
  | .error e => .error (.numeral e)

theorem toNat_readBatchWord (text : String) : (readBatchWord text).map UInt64.toNat = readBatchSize text := by
  have hread : Numeral.read (Bytes.bound 8 - 1) text.toList = (Numeral.readWord text.toList).map UInt64.toNat :=
    (Numeral.toNat_readWord text.toList).symm
  unfold readBatchWord readBatchSize
  rw [hread]
  cases Numeral.readWord text.toList with
  | error e => rfl
  | ok n =>
    by_cases hn : n = 0
    · rw [hn]
      rfl
    · have hpos : n.toNat ≠ 0 := fun h => hn (UInt64.toNat_inj.mp h)
      simp only [if_neg hn, Except.map]

/-- Everything there is to say about a text for the number of transfers in a batch. -/
structure BatchSizeRead (text : String) : Prop where
  accepted : ∀ n, readBatchSize text = .ok n ↔ Numeral.Spells text.toList n ∧ 1 ≤ n ∧ n ≤ 2 ^ 64 - 1
  zero : readBatchSize text = .error .emptyBatch ↔ Numeral.Spells text.toList 0
  empty : readBatchSize text = .error (.numeral .empty) ↔ text = ""
  tooLarge : readBatchSize text = .error (.numeral .tooLarge) ↔ Numeral.Passes (2 ^ 64 - 1) text.toList
  invalidDigit : readBatchSize text = .error (.numeral .invalidDigit) ↔
    text ≠ "" ∧ ¬ Numeral.Passes (2 ^ 64 - 1) text.toList ∧ ∀ n, ¬ Numeral.Spells text.toList n
  /-- A word is enough for the reading. -/
  word : (readBatchWord text).map UInt64.toNat = readBatchSize text
  /-- The word that is reached after some of the digits is their value. -/
  exact : ∀ front rest value, Numeral.afterSign text.toList = front ++ rest →
    Numeral.accumulate 0 front = .ok value → value.toNat = Nat.ofDigitChars 10 front 0 ∧
      Numeral.accumulate 0 (Numeral.afterSign text.toList) = Numeral.accumulate value rest

/-- The number of transfers in a batch is read exactly, and never wraps around. -/
theorem readBatchSize_exact (text : String) : BatchSizeRead text := by
  have hempty : text.toList = [] ↔ text = "" := String.toList_eq_nil_iff
  constructor
  case accepted => exact fun n => readBatchSize_eq_ok_iff
  case zero => exact readBatchSize_eq_emptyBatch_iff
  case empty => rw [readBatchSize_eq_numeral_iff, Numeral.read_eq_empty_iff, hempty]
  case tooLarge => rw [readBatchSize_eq_numeral_iff, Numeral.read_eq_tooLarge_iff]
  case invalidDigit => rw [readBatchSize_eq_numeral_iff, Numeral.read_eq_invalidDigit_iff, ne_eq, hempty]
  case word => exact toNat_readBatchWord text
  case exact =>
    intro front rest value hsplit hvalue
    rw [hsplit]
    exact ⟨Numeral.toNat_of_accumulate hvalue, Numeral.accumulate_append rest hvalue⟩

example : readBatchSize "18446744073709551616x" = .error (.numeral .tooLarge) := rfl

example : readBatchSize "18446744073709551615x" = .error (.numeral .invalidDigit) := rfl

end Readers

/-- What a setting can be set to. -/
inductive Value where
  | text (t : String)
  | number (n : Nat)
  | mode (m : BatchMode)
  | status (w : WaitFor)
deriving DecidableEq

/-- Values of one sort, and the numbers that bound them. -/
inductive Kind where
  | text
  | number (least greatest : Nat)
  | mode
  | status

def Setting.kind : Setting → Kind
  | node => .text
  | senderSeed => .text
  | recipient => .text
  | amount => .number 0 (2 ^ 128 - 1)
  | batchSize => .number 1 (2 ^ 64 - 1)
  | batchMode => .mode
  | transferCall => .text
  | waitFor => .status
  | connectionRetries => .number 0 (2 ^ 32 - 1)

/-- The texts that stand for a value. -/
inductive Kind.Says : Kind → String → Value → Prop
  | text (t : String) : Says .text t (.text t)
  | number {least greatest n : Nat} {t : String} (h : Numeral.Spells t.toList n) (hleast : least ≤ n)
    (hgreatest : n ≤ greatest) : Says (.number least greatest) t (.number n)
  | mode {t : String} {m : BatchMode} (h : t ∈ m.spellings) : Says .mode t (.mode m)
  | status {t : String} {w : WaitFor} (h : t ∈ w.spellings) : Says .status t (.status w)

section Kinds

variable {t : String} {v : Value}

@[simp] theorem Kind.says_text_iff : Kind.text.Says t v ↔ v = .text t := by
  constructor
  · rintro ⟨⟩
    rfl
  · rintro rfl
    exact .text t

@[simp] theorem Kind.says_number_iff {least greatest : Nat} : (Kind.number least greatest).Says t v ↔
    ∃ n, (Numeral.Spells t.toList n ∧ least ≤ n ∧ n ≤ greatest) ∧ v = .number n := by
  constructor
  · rintro ⟨⟩
    exact ⟨_, ⟨‹_›, ‹_›, ‹_›⟩, rfl⟩
  · rintro ⟨n, ⟨h, hleast, hgreatest⟩, rfl⟩
    exact .number h hleast hgreatest

@[simp] theorem Kind.says_mode_iff : Kind.mode.Says t v ↔ ∃ m : BatchMode, t ∈ m.spellings ∧ v = .mode m := by
  constructor
  · rintro ⟨⟩
    exact ⟨_, ‹_›, rfl⟩
  · rintro ⟨m, h, rfl⟩
    exact .mode h

@[simp] theorem Kind.says_status_iff : Kind.status.Says t v ↔ ∃ w : WaitFor, t ∈ w.spellings ∧ v = .status w := by
  constructor
  · rintro ⟨⟩
    exact ⟨_, ‹_›, rfl⟩
  · rintro ⟨w, h, rfl⟩
    exact .status h

/-- The values of a kind. -/
def Kind.Takes : Kind → Value → Prop
  | .text, .text _ => True
  | .number least greatest, .number n => least ≤ n ∧ n ≤ greatest
  | .mode, .mode _ => True
  | .status, .status _ => True
  | _, _ => False

/-- One text that stands for the value. -/
def Value.canonical : Value → String
  | .text t => t
  | .number n => n.repr
  | .mode m => m.callName
  | .status .inBlock => "in-block"
  | .status .finalized => "finalized"

theorem Kind.Says.takes {kind : Kind} (h : kind.Says t v) : kind.Takes v := by
  cases h with
  | text => trivial
  | number hspells hleast hgreatest => exact ⟨hleast, hgreatest⟩
  | mode => trivial
  | status => trivial

/-- A text stands for one value. -/
theorem Kind.Says.unique {kind : Kind} {w : Value} (hv : kind.Says t v) (hw : kind.Says t w) : v = w := by
  cases hv with
  | text =>
    cases hw
    rfl
  | number hn =>
    cases hw with
    | number hm => rw [← hn.value, ← hm.value]
  | mode hm =>
    cases hw with
    | mode hn =>
      rw [← BatchMode.ofText?_eq_some_iff] at hm hn
      rw [Option.some.inj (hm.symm.trans hn)]
  | status hm =>
    cases hw with
    | status hn =>
      rw [← WaitFor.ofText?_eq_some_iff] at hm hn
      rw [Option.some.inj (hm.symm.trans hn)]

/-- There is a text for every value. -/
theorem Kind.Takes.says_canonical {kind : Kind} (h : kind.Takes v) : kind.Says v.canonical v := by
  cases kind with
  | text =>
    cases v with
    | text t => exact .text t
    | number | mode | status => cases h
  | number least greatest =>
    cases v with
    | number n => exact .number (Numeral.spells_repr n) h.1 h.2
    | text | mode | status => cases h
  | mode =>
    cases v with
    | mode m =>
      refine .mode ?_
      cases m <;> decide
    | text | number | status => cases h
  | status =>
    cases v with
    | status w =>
      refine .status ?_
      cases w <;> decide
    | text | number | mode => cases h

end Kinds

namespace Config

/-- What a setting is set to. -/
def get (c : Config) : Setting → Value
  | .node => .text c.node
  | .senderSeed => .text c.senderSeed
  | .recipient => .text c.recipient
  | .amount => .number c.amount.toNat
  | .batchSize => .number c.batchSize
  | .batchMode => .mode c.batchMode
  | .transferCall => .text c.transferCall
  | .waitFor => .status c.waitFor
  | .connectionRetries => .number c.connectionRetries

/-- A configuration is what its settings are set to. -/
theorem ext_get {a b : Config} (h : ∀ s, a.get s = b.get s) : a = b := by
  have hnode : a.node = b.node := Value.text.inj (h .node)
  have hseed : a.senderSeed = b.senderSeed := Value.text.inj (h .senderSeed)
  have hrecipient : a.recipient = b.recipient := Value.text.inj (h .recipient)
  have hamount : a.amount = b.amount := BitVec.eq_of_toNat_eq (Value.number.inj (h .amount))
  have hsize : a.batchSize = b.batchSize := Value.number.inj (h .batchSize)
  have hmode : a.batchMode = b.batchMode := Value.mode.inj (h .batchMode)
  have hcall : a.transferCall = b.transferCall := Value.text.inj (h .transferCall)
  have hwait : a.waitFor = b.waitFor := Value.status.inj (h .waitFor)
  have hretries : a.connectionRetries = b.connectionRetries := Value.number.inj (h .connectionRetries)
  cases a
  cases b
  simp_all

/-- The configuration with another value of a setting. Only values of the setting's kind are meant. -/
def put (c : Config) : Setting → Value → Config
  | .node, .text t => { c with node := t }
  | .senderSeed, .text t => { c with senderSeed := t }
  | .recipient, .text t => { c with recipient := t }
  | .amount, .number n => { c with amount := .ofNat 128 n }
  | .batchSize, .number n => { c with batchSize := n }
  | .batchMode, .mode m => { c with batchMode := m }
  | .transferCall, .text t => { c with transferCall := t }
  | .waitFor, .status w => { c with waitFor := w }
  | .connectionRetries, .number n => { c with connectionRetries := n }
  | _, _ => c

variable {c c' : Config} {s other : Setting} {t : String} {v : Value}

theorem get_put_of_ne (c : Config) (v : Value) (hne : other ≠ s) : (c.put s v).get other = c.get other := by
  unfold put
  split <;> first | rfl | (cases other <;> first | rfl | exact absurd rfl hne)

theorem get_put_self (c : Config) (h : s.kind.Says t v) : (c.put s v).get s = v := by
  cases s with
  | amount =>
    -- A text says no amount that is too large for a balance.
    obtain ⟨n, ⟨-, -, hgreatest⟩, rfl⟩ := Kind.says_number_iff.mp h
    exact congrArg Value.number (Nat.mod_eq_of_lt (Nat.lt_of_le_of_lt hgreatest (by decide)))
  | _ =>
    cases h
    rfl

/-- A setting takes the values of its reader, which are those that its texts stand for. -/
theorem set_eq_ok_iff_of_read {α : Type} (read : Except ValueError α) (value : α → Value)
    (hset : c.set s t = read.map fun a => c.put s (value a))
    (hread : ∀ v, s.kind.Says t v ↔ ∃ a, read = .ok a ∧ v = value a) :
    c.set s t = .ok c' ↔ ∃ v, s.kind.Says t v ∧ c.put s v = c' := by
  rw [hset, Outcome.map_eq_ok_iff]
  simp only [hread]
  constructor
  · rintro ⟨a, ha, hput⟩
    exact ⟨value a, ⟨a, ha, rfl⟩, hput⟩
  · rintro ⟨v, ⟨a, ha, rfl⟩, hput⟩
    exact ⟨a, ha, hput⟩

theorem says_number_iff_read (width : Nat) : (Kind.number 0 (Bytes.bound width - 1)).Says t v ↔
    ∃ n, readNumber width t = .ok n ∧ v = .number n := by
  simp [readNumber_eq_ok_iff]

theorem says_batchSize_iff_read :
    Setting.batchSize.kind.Says t v ↔ ∃ n, readBatchSize t = .ok n ∧ v = .number n := by
  simp [Setting.kind, readBatchSize_eq_ok_iff]

theorem says_mode_iff_read : Kind.mode.Says t v ↔ ∃ m, readMode t = .ok m ∧ v = .mode m := by
  simp [readMode_eq_ok_iff]

theorem says_status_iff_read : Kind.status.Says t v ↔ ∃ w, readStatus t = .ok w ∧ v = .status w := by
  simp [readStatus_eq_ok_iff]

/-- Setting a setting puts a value there that the text says. -/
theorem set_eq_ok_iff_put : c.set s t = .ok c' ↔ ∃ v, s.kind.Says t v ∧ c.put s v = c' := by
  cases s with
  | node => simp [set, Setting.kind, put]
  | senderSeed => simp [set, Setting.kind, put]
  | recipient => simp [set, Setting.kind, put]
  | transferCall => simp [set, Setting.kind, put]
  | amount => exact set_eq_ok_iff_of_read (readNumber 16 t) .number rfl fun _ => says_number_iff_read 16
  | connectionRetries => exact set_eq_ok_iff_of_read (readNumber 4 t) .number rfl fun _ => says_number_iff_read 4
  | batchSize => exact set_eq_ok_iff_of_read (readBatchSize t) .number rfl fun _ => says_batchSize_iff_read
  | batchMode => exact set_eq_ok_iff_of_read (readMode t) .mode rfl fun _ => says_mode_iff_read
  | waitFor => exact set_eq_ok_iff_of_read (readStatus t) .status rfl fun _ => says_status_iff_read

/-- A text sets one setting to the value that it stands for, and leaves the others. -/
theorem set_eq_ok_iff :
    c.set s t = .ok c' ↔ s.kind.Says t (c'.get s) ∧ ∀ other ≠ s, c'.get other = c.get other := by
  rw [set_eq_ok_iff_put]
  constructor
  · rintro ⟨v, hvalue, rfl⟩
    rw [get_put_self c hvalue]
    exact ⟨hvalue, fun other hne => get_put_of_ne c v hne⟩
  · rintro ⟨hvalue, hothers⟩
    refine ⟨c'.get s, hvalue, ext_get fun other => ?_⟩
    by_cases hne : other = s
    · rw [hne, get_put_self c hvalue]
    · rw [get_put_of_ne c _ hne, hothers other hne]

/-- A default is what its text says. -/
theorem says_default (s : Setting) : s.kind.Says s.default (default.get s) :=
  (set_eq_ok_iff.mp (set_default s)).1

end Config

end Options
end Payout
