import Mathlib.Algebra.Order.Ring.Nat
import Payout.Numeral

/-!
# How numbers are written

A numeral is one or more ASCII digits after an optional plus sign. Reading it gives its value when that is not past
the bound. A text is too large when the digits from the first on pass the bound before another character is met, and
it has an invalid digit when there is no other fault. The value may be kept in a word of 64 bits, which never wraps
around when products and sums are checked.
-/
namespace Payout.Numeral

/-- Only ASCII digits. -/
def AllDigits (digits : List Char) : Prop :=
  ∀ c ∈ digits, c.isDigit

/-- What follows the plus sign, or the whole text without one. -/
def afterSign : List Char → List Char
  | '+' :: rest => rest
  | text => text

/-- The text is a numeral of the number. Its digits may start with zeros. -/
structure Spells (text : List Char) (n : Nat) : Prop where
  nonempty : afterSign text ≠ []
  digits : AllDigits (afterSign text)
  value : Nat.ofDigitChars 10 (afterSign text) 0 = n

/-- The digits that the text starts with have a value past the bound, or some of the first of them do. -/
def Passes (bound : Nat) (text : List Char) : Prop :=
  ∃ front, front <+: afterSign text ∧ AllDigits front ∧ bound < Nat.ofDigitChars 10 front 0

section Digits

theorem allDigits_nil : AllDigits [] := by
  simp [AllDigits]

theorem allDigits_cons {c : Char} {rest : List Char} :
    AllDigits (c :: rest) ↔ c.isDigit ∧ AllDigits rest := by
  simp [AllDigits]

theorem isDigit_iff {c : Char} : c.isDigit ↔ '0' ≤ c ∧ c ≤ '9' := by
  simp [Char.isDigit, Char.le_def]

theorem digit?_of_isDigit {c : Char} (h : c.isDigit) : digit? c = some (c.toNat - 48) :=
  if_pos (isDigit_iff.mp h)

theorem digit?_of_not_isDigit {c : Char} (h : ¬ c.isDigit) : digit? c = none :=
  if_neg fun hc => h (isDigit_iff.mpr hc)

theorem ofDigitChars_cons {c : Char} {rest : List Char} {value : Nat} :
    Nat.ofDigitChars 10 (c :: rest) value = Nat.ofDigitChars 10 rest (10 * value + (c.toNat - 48)) :=
  Nat.ofDigitChars_cons

/-- More digits do not make a number smaller. -/
theorem le_ofDigitChars (digits : List Char) (value : Nat) : value ≤ Nat.ofDigitChars 10 digits value := by
  induction digits generalizing value with
  | nil => simp
  | cons c rest ih =>
    have hlater := ih (10 * value + (c.toNat - 48))
    rw [ofDigitChars_cons]
    omega

end Digits

section Reading

variable {bound value : Nat}

theorem readDigits_of_digit {c : Char} {rest : List Char} (h : c.isDigit) :
    readDigits bound value (c :: rest) =
      if 10 * value + (c.toNat - 48) ≤ bound then readDigits bound (10 * value + (c.toNat - 48)) rest
      else .error .tooLarge := by
  simp only [readDigits, digit?_of_isDigit h]

theorem readDigits_of_not_digit {c : Char} {rest : List Char} (h : ¬ c.isDigit) :
    readDigits bound value (c :: rest) = .error .invalidDigit := by
  simp only [readDigits, digit?_of_not_isDigit h]

theorem readDigits_eq_ok_iff {digits : List Char} {n : Nat} (hv : value ≤ bound) :
    readDigits bound value digits = .ok n ↔
      AllDigits digits ∧ Nat.ofDigitChars 10 digits value = n ∧ n ≤ bound := by
  induction digits generalizing value with
  | nil =>
    simp only [readDigits, allDigits_nil, Nat.ofDigitChars_nil, Except.ok.injEq, true_and]
    omega
  | cons c rest ih =>
    by_cases hc : c.isDigit
    · rw [readDigits_of_digit hc, allDigits_cons, ofDigitChars_cons]
      split
      · rename_i hle
        simp only [ih hle, hc, true_and]
      · rename_i hpast
        have hmore := le_ofDigitChars rest (10 * value + (c.toNat - 48))
        constructor
        · intro h
          cases h
        · intro h
          omega
    · rw [readDigits_of_not_digit hc, allDigits_cons]
      simp [hc]

/-- What does not hold of the empty front of a list holds of one with the first member. -/
theorem exists_prefix_cons_iff {c : Char} {rest : List Char} {P : List Char → Prop} (hnil : ¬ P []) :
    (∃ front, front <+: c :: rest ∧ P front) ↔ ∃ front, front <+: rest ∧ P (c :: front) := by
  simp only [List.prefix_cons_iff]
  constructor
  · rintro ⟨front, rfl | ⟨later, rfl, hlater⟩, hfront⟩
    · exact absurd hfront hnil
    · exact ⟨later, hlater, hfront⟩
  · rintro ⟨later, hlater, hfront⟩
    exact ⟨c :: later, .inr ⟨later, rfl, hlater⟩, hfront⟩

/-- The digits are too large when the first of them, up to some point, are past the bound. -/
theorem readDigits_eq_tooLarge_iff {digits : List Char} (hv : value ≤ bound) :
    readDigits bound value digits = .error .tooLarge ↔
      ∃ front, front <+: digits ∧ AllDigits front ∧ bound < Nat.ofDigitChars 10 front value := by
  -- No digits at all leave the value where it is, below the bound.
  have hnone : ¬ bound < Nat.ofDigitChars 10 [] value := by
    simpa using hv
  induction digits generalizing value with
  | nil =>
    simp only [readDigits, List.prefix_nil, exists_eq_left, hnone, and_false, reduceCtorEq]
  | cons c rest ih =>
    rw [exists_prefix_cons_iff fun h => hnone h.2]
    simp only [allDigits_cons, ofDigitChars_cons]
    by_cases hc : c.isDigit
    · rw [readDigits_of_digit hc]
      simp only [hc, true_and]
      split
      · rename_i hle
        apply ih hle
        simpa using hle
      · rename_i hpast
        refine iff_of_true rfl ⟨[], List.nil_prefix, allDigits_nil, ?_⟩
        simpa using hpast
    · rw [readDigits_of_not_digit hc]
      simp [hc]

theorem readDigits_ne_empty {digits : List Char} : readDigits bound value digits ≠ .error .empty := by
  induction digits generalizing value with
  | nil => simp [readDigits]
  | cons c rest ih =>
    by_cases hc : c.isDigit
    · rw [readDigits_of_digit hc]
      split
      · exact ih
      · simp
    · rw [readDigits_of_not_digit hc]
      simp

end Reading

section Texts

variable {bound : Nat} {text : List Char}

theorem afterSign_of_ne {c : Char} {rest : List Char} (h : c ≠ '+') : afterSign (c :: rest) = c :: rest := by
  simp [afterSign, h]

/-- Apart from the text of no character and the lone sign, the digits after the sign are read. -/
theorem read_eq (hdigits : afterSign text ≠ []) : read bound text = readDigits bound 0 (afterSign text) := by
  unfold read
  split
  · exact absurd rfl hdigits
  · exact absurd rfl hdigits
  · rfl
  · rename_i hnil hsign hplus
    congr 1
    cases text with
    | nil => rfl
    | cons c rest =>
      rw [afterSign_of_ne]
      rintro rfl
      exact hplus rest rfl

theorem afterSign_eq_nil_iff : afterSign text = [] ↔ text = [] ∨ text = ['+'] := by
  cases text with
  | nil => simp [afterSign]
  | cons c rest =>
    by_cases hc : c = '+'
    · simp [hc, afterSign]
    · simp [afterSign_of_ne hc, hc]

/-- Without digits a text is empty, or the lone sign is no digit. -/
theorem read_of_afterSign_eq_nil (h : afterSign text = []) :
    read bound text = .error (if text = [] then .empty else .invalidDigit) := by
  rcases afterSign_eq_nil_iff.mp h with rfl | rfl
  · rfl
  · rfl

theorem passes_of_afterSign_eq_nil (h : afterSign text = []) : ¬ Passes bound text := by
  rintro ⟨front, hfront, -, hvalue⟩
  rw [h, List.prefix_nil] at hfront
  simp [hfront] at hvalue

/-- A numeral is read when its value is not past the bound, and nothing else is. -/
theorem read_eq_ok_iff {n : Nat} : read bound text = .ok n ↔ Spells text n ∧ n ≤ bound := by
  by_cases h : afterSign text = []
  · rw [read_of_afterSign_eq_nil h]
    simp only [reduceCtorEq, false_iff, not_and]
    intro hspells
    exact absurd h hspells.nonempty
  · rw [read_eq h, readDigits_eq_ok_iff (Nat.zero_le bound)]
    constructor
    · intro hread
      exact ⟨⟨h, hread.1, hread.2.1⟩, hread.2.2⟩
    · intro hspells
      exact ⟨hspells.1.digits, hspells.1.value, hspells.2⟩

theorem read_eq_empty_iff : read bound text = .error .empty ↔ text = [] := by
  by_cases h : afterSign text = []
  · rw [read_of_afterSign_eq_nil h]
    split
    · simp_all
    · simp_all
  · have htext : text ≠ [] := fun hnil => h (afterSign_eq_nil_iff.mpr (.inl hnil))
    rw [read_eq h]
    exact iff_of_false readDigits_ne_empty htext

theorem read_eq_tooLarge_iff : read bound text = .error .tooLarge ↔ Passes bound text := by
  by_cases h : afterSign text = []
  · rw [read_of_afterSign_eq_nil h]
    refine iff_of_false ?_ (passes_of_afterSign_eq_nil h)
    split
    · simp
    · simp
  · rw [read_eq h]
    exact readDigits_eq_tooLarge_iff (Nat.zero_le bound)

/-- A numeral past the bound passes it. -/
theorem Spells.passes {n : Nat} (h : Spells text n) (hn : bound < n) : Passes bound text := by
  refine ⟨afterSign text, List.prefix_rfl, h.digits, ?_⟩
  rwa [h.value]

/-- A digit is invalid when nothing else is wrong with a text that is no numeral. -/
theorem read_eq_invalidDigit_iff :
    read bound text = .error .invalidDigit ↔ text ≠ [] ∧ ¬ Passes bound text ∧ ∀ n, ¬ Spells text n := by
  rw [ne_eq, ← @read_eq_empty_iff bound text, ← read_eq_tooLarge_iff]
  constructor
  · intro h
    refine ⟨by simp [h], by simp [h], fun n hspells => ?_⟩
    by_cases hn : n ≤ bound
    · rw [read_eq_ok_iff.mpr ⟨hspells, hn⟩] at h
      cases h
    · rw [read_eq_tooLarge_iff.mpr (hspells.passes (Nat.lt_of_not_le hn))] at h
      cases h
  · rintro ⟨hempty, hlarge, hnone⟩
    cases hread : read bound text with
    | ok n => exact absurd (read_eq_ok_iff.mp hread).1 (hnone n)
    | error e =>
      cases e with
      | empty => exact absurd hread hempty
      | invalidDigit => rfl
      | tooLarge => exact absurd hread hlarge

end Texts

section Words

/-- Ten times a word and a digit, unless the product or the sum is past the largest word. -/
def push? (word digit : UInt64) : Option UInt64 :=
  if BitVec.umulOverflow word.toBitVec 10 then none
  else if BitVec.uaddOverflow (word * 10).toBitVec digit.toBitVec then none
  else some (word * 10 + digit)

/-- Reads the digits that follow a value already read, which is kept in a word. -/
def accumulate (word : UInt64) : List Char → Except NumeralError UInt64
  | [] => .ok word
  | c :: rest =>
    match digit? c with
    | none => .error .invalidDigit
    | some d =>
      match push? word d.toUInt64 with
      | none => .error .tooLarge
      | some next => accumulate next rest

/-- A numeral whose value is kept in a word. -/
def readWord : List Char → Except NumeralError UInt64
  | [] => .error .empty
  | ['+'] => .error .invalidDigit
  | text => accumulate 0 (afterSign text)

theorem toNat_ten_mul {word : UInt64} (h : 10 * word.toNat < 2 ^ 64) : (word * 10).toNat = 10 * word.toNat := by
  have hten : (10 : UInt64).toNat = 10 := rfl
  rw [UInt64.toNat_mul, hten, Nat.mul_comm]
  exact Nat.mod_eq_of_lt h

theorem push?_eq (word digit : UInt64) :
    push? word digit =
      if 10 * word.toNat + digit.toNat ≤ 2 ^ 64 - 1 then some (word * 10 + digit) else none := by
  have hproduct : BitVec.umulOverflow word.toBitVec 10 = decide (2 ^ 64 ≤ 10 * word.toNat) := by
    simp [BitVec.umulOverflow, Nat.mul_comm]
  unfold push?
  rw [hproduct]
  by_cases hmul : 2 ^ 64 ≤ 10 * word.toNat
  · rw [if_pos (decide_eq_true hmul), if_neg (by omega)]
  · have hsum : BitVec.uaddOverflow (word * 10).toBitVec digit.toBitVec =
        decide (2 ^ 64 ≤ 10 * word.toNat + digit.toNat) := by
      simp only [BitVec.uaddOverflow, UInt64.toNat_toBitVec, toNat_ten_mul (not_le.mp hmul), ge_iff_le]
    rw [if_neg (by simpa using hmul), hsum]
    by_cases hadd : 2 ^ 64 ≤ 10 * word.toNat + digit.toNat
    · rw [if_pos (decide_eq_true hadd), if_neg (by omega)]
    · rw [if_neg (by simpa using hadd), if_pos (by omega)]

theorem toNat_push {word digit : UInt64} (h : 10 * word.toNat + digit.toNat ≤ 2 ^ 64 - 1) :
    (word * 10 + digit).toNat = 10 * word.toNat + digit.toNat := by
  rw [UInt64.toNat_add, toNat_ten_mul (by omega)]
  apply Nat.mod_eq_of_lt
  omega

theorem toNat_digit {c : Char} (h : c.isDigit) : (c.toNat - 48).toUInt64.toNat = c.toNat - 48 := by
  have hnine : c.toNat ≤ '9'.toNat := (Char.isDigit_iff_toNat.mp h).2
  have hvalue : '9'.toNat = 57 := rfl
  rw [UInt64.toNat_ofNat']
  apply Nat.mod_eq_of_lt
  omega

/-- A word that is filled up step by step is the value of the digits, as far as it fits. -/
theorem toNat_accumulate (word : UInt64) (digits : List Char) :
    (accumulate word digits).map UInt64.toNat = readDigits (2 ^ 64 - 1) word.toNat digits := by
  induction digits generalizing word with
  | nil => rfl
  | cons c rest ih =>
    by_cases hc : c.isDigit
    · rw [readDigits_of_digit hc, ← toNat_digit hc]
      simp only [accumulate, digit?_of_isDigit hc, push?_eq]
      by_cases hle : 10 * word.toNat + (c.toNat - 48).toUInt64.toNat ≤ 2 ^ 64 - 1
      · rw [if_pos hle, if_pos hle, ← toNat_push hle]
        exact ih (word * 10 + (c.toNat - 48).toUInt64)
      · rw [if_neg hle, if_neg hle]
        rfl
    · rw [readDigits_of_not_digit hc]
      simp only [accumulate, digit?_of_not_isDigit hc]
      rfl

theorem readWord_eq {text : List Char} (h : afterSign text ≠ []) :
    readWord text = accumulate 0 (afterSign text) := by
  unfold readWord
  split
  · exact absurd rfl h
  · exact absurd rfl h
  · rfl

/-- A word is read exactly as a number of its range is. -/
theorem toNat_readWord (text : List Char) : (readWord text).map UInt64.toNat = read (2 ^ 64 - 1) text := by
  by_cases h : afterSign text = []
  · rcases afterSign_eq_nil_iff.mp h with rfl | rfl
    · rfl
    · rfl
  · rw [readWord_eq h, read_eq h]
    exact toNat_accumulate 0 (afterSign text)

theorem accumulate_append {word next : UInt64} {front : List Char} (rest : List Char)
    (h : accumulate word front = .ok next) : accumulate word (front ++ rest) = accumulate next rest := by
  induction front generalizing word with
  | nil =>
    rw [← Except.ok.inj h]
    rfl
  | cons c front ih =>
    rw [List.cons_append, accumulate]
    rw [accumulate] at h
    cases hdigit : digit? c with
    | none => simp [hdigit] at h
    | some d =>
      cases hpush : push? word d.toUInt64 with
      | none => simp [hdigit, hpush] at h
      | some w =>
        simp only [hdigit, hpush] at h ⊢
        exact ih h

/-- Whatever the word is after some digits, it has not wrapped around. -/
theorem toNat_of_accumulate {word : UInt64} {digits : List Char} (h : accumulate 0 digits = .ok word) :
    word.toNat = Nat.ofDigitChars 10 digits 0 := by
  have hread := toNat_accumulate 0 digits
  rw [h] at hread
  have hvalue := (readDigits_eq_ok_iff (Nat.zero_le _)).mp hread.symm
  exact hvalue.2.1.symm

end Words

section Canonical

theorem allDigits_toDigits (n : Nat) : AllDigits (Nat.toDigits 10 n) :=
  fun _ hc => Nat.isDigit_of_mem_toDigits (by decide) (by decide) hc

theorem afterSign_of_allDigits {digits : List Char} (h : AllDigits digits) : afterSign digits = digits := by
  cases digits with
  | nil => rfl
  | cons c rest =>
    apply afterSign_of_ne
    rintro rfl
    exact absurd (allDigits_cons.mp h).1 (by decide)

/-- The decimal digits of a number are a numeral of it. -/
theorem spells_repr (n : Nat) : Spells n.repr.toList n := by
  have hdigits : afterSign n.repr.toList = Nat.toDigits 10 n := by
    rw [Nat.toList_repr, afterSign_of_allDigits (allDigits_toDigits n)]
  constructor
  · rw [hdigits]
    exact Nat.toDigits_ne_nil
  · rw [hdigits]
    exact allDigits_toDigits n
  · rw [hdigits]
    exact Nat.ofDigitChars_ten_toDigits

end Canonical

end Payout.Numeral
