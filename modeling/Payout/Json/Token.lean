import Payout.Hex
import Payout.Json.Error
import Payout.Numeral

/-!
# Tokens of JSON

Reading strings, numbers and words at the start of a text. Each is read in two ways: for its value, and
only to step over it, in which case less is asked of it. What is left is always shorter than what was
given, and no longer than it for blanks.
-/
namespace Payout.Json

abbrev Read (α : Type) := Except Error (α × List Char)

def isBlank (c : Char) : Bool :=
  c = ' ' || c = '\n' || c = '\t' || c = '\r'

def skipBlanks (s : List Char) : List Char :=
  s.dropWhile isBlank

theorem length_skipBlanks_le (s : List Char) : (skipBlanks s).length ≤ s.length :=
  (List.dropWhile_suffix isBlank).length_le

theorem length_lt_of_skipBlanks {s rest : List Char} {c : Char} (h : skipBlanks s = c :: rest) :
    rest.length < s.length := by
  have hs := length_skipBlanks_le s
  rw [h] at hs
  exact hs

/-- The number of bytes of a text in UTF-8. -/
def byteLength : List Char → Nat
  | [] => 0
  | c :: rest => c.utf8Size + byteLength rest

/-- Reads the four digits of an escape. Four bytes have to be left for them. -/
def readHex4 (s : List Char) : Read Nat :=
  if byteLength s < 4 then .error .endInString
  else
    match s with
    | a :: b :: c :: d :: rest =>
      match Hex.digit? a, Hex.digit? b, Hex.digit? c, Hex.digit? d with
      | some a, some b, some c, some d => .ok (((a * 16 + b) * 16 + c) * 16 + d, rest)
      | _, _, _, _ => .error .invalidEscape
    | _ => .error .invalidEscape

/-- Reads the second half of a character that takes two escapes. -/
def readLowSurrogate (high : Nat) : List Char → Read Char
  | [] => .error .endInString
  | '\\' :: [] => .error .endInString
  | '\\' :: 'u' :: rest =>
    match readHex4 rest with
    | .error e => .error e
    | .ok (low, rest) =>
      if 0xDC00 ≤ low ∧ low ≤ 0xDFFF then
        .ok (Char.ofNat ((high - 0xD800) * 1024 + (low - 0xDC00) + 0x10000), rest)
      else .error .loneSurrogate
  | _ => .error .endOfEscape

/-- Reads the character that follows a backslash and `u`. -/
def readUnicode (s : List Char) : Read Char :=
  match readHex4 s with
  | .error e => .error e
  | .ok (n, rest) =>
    if 0xDC00 ≤ n ∧ n ≤ 0xDFFF then .error .loneSurrogate
    else if 0xD800 ≤ n ∧ n ≤ 0xDBFF then readLowSurrogate n rest
    else .ok (Char.ofNat n, rest)

/-- The character of a short escape. -/
def shortEscape? (c : Char) : Option Char :=
  if c = '"' ∨ c = '\\' ∨ c = '/' then some c
  else if c = 'b' then some '\x08'
  else if c = 'f' then some '\x0c'
  else if c = 'n' then some '\n'
  else if c = 'r' then some '\r'
  else if c = 't' then some '\t'
  else none

/-- Reads what follows a backslash. -/
def readEscape : List Char → Read Char
  | [] => .error .endInString
  | 'u' :: rest => readUnicode rest
  | c :: rest =>
    match shortEscape? c with
    | some c => .ok (c, rest)
    | none => .error .invalidEscape

/-- Steps over what follows a backslash. -/
def skipEscape : List Char → Except Error (List Char)
  | [] => .error .endInString
  | 'u' :: rest => (readHex4 rest).map Prod.snd
  | c :: rest =>
    match shortEscape? c with
    | some _ => .ok rest
    | none => .error .invalidEscape

theorem readHex4_length {s rest : List Char} {n : Nat} (h : readHex4 s = .ok (n, rest)) :
    rest.length < s.length := by
  unfold readHex4 at h
  split at h
  · cases h
  · split at h
    · split at h
      · cases h; simp; omega
      · cases h
    · cases h

theorem readLowSurrogate_length {high : Nat} {s rest : List Char} {c : Char}
    (h : readLowSurrogate high s = .ok (c, rest)) : rest.length < s.length := by
  unfold readLowSurrogate at h
  split at h
  · cases h
  · cases h
  · split at h
    · cases h
    · have hlen := readHex4_length ‹_›
      split at h
      · simp only [Except.ok.injEq, Prod.mk.injEq] at h
        obtain ⟨_, rfl⟩ := h
        simp only [List.length_cons]
        omega
      · cases h
  · cases h

theorem readUnicode_length {s rest : List Char} {c : Char}
    (h : readUnicode s = .ok (c, rest)) : rest.length < s.length := by
  unfold readUnicode at h
  split at h
  · cases h
  · have hlen := readHex4_length ‹_›
    split at h
    · cases h
    · split at h
      · have := readLowSurrogate_length h
        omega
      · cases h; exact hlen

theorem readEscape_length {s rest : List Char} {c : Char}
    (h : readEscape s = .ok (c, rest)) : rest.length < s.length := by
  unfold readEscape at h
  split at h
  · cases h
  · have := readUnicode_length h
    simp; omega
  · split at h
    · cases h; simp
    · cases h

theorem skipEscape_length {s rest : List Char} (h : skipEscape s = .ok rest) :
    rest.length < s.length := by
  unfold skipEscape at h
  split at h
  · cases h
  · rename_i t
    cases ht : readHex4 t with
    | error e => rw [ht] at h; cases h
    | ok r =>
      rw [ht] at h
      have hlen := readHex4_length ht
      cases h
      simp; omega
  · split at h
    · cases h; simp
    · cases h

/-- Reads a string whose opening quote was taken. -/
def readString (s : List Char) : Read (List Char) :=
  match s with
  | [] => .error .endInString
  | '"' :: rest => .ok ([], rest)
  | '\\' :: rest =>
    match h : readEscape rest with
    | .error e => .error e
    | .ok (c, more) =>
      have : more.length < rest.length := readEscape_length h
      (readString more).map fun r => (c :: r.1, r.2)
  | c :: rest =>
    if c.toNat < 32 then .error .controlCharacter
    else (readString rest).map fun r => (c :: r.1, r.2)
termination_by s.length

/-- Steps over a string whose opening quote was taken. -/
def skipString (s : List Char) : Except Error (List Char) :=
  match s with
  | [] => .error .endInString
  | '"' :: rest => .ok rest
  | '\\' :: rest =>
    match h : skipEscape rest with
    | .error e => .error e
    | .ok more =>
      have : more.length < rest.length := skipEscape_length h
      skipString more
  | c :: rest => if c.toNat < 32 then .error .controlCharacter else skipString rest
termination_by s.length

theorem readString_length {s text rest : List Char} (h : readString s = .ok (text, rest)) :
    rest.length < s.length := by
  fun_induction readString s generalizing text with
  | case1 => cases h
  | case2 => cases h; simp
  | case3 => cases h
  | case4 t c more hm hlt ih =>
    cases hr : readString more with
    | error e => rw [hr] at h; cases h
    | ok r =>
      rw [hr] at h
      cases h
      have := ih hr
      simp; omega
  | case5 => cases h
  | case6 c t _ _ _ ih =>
    cases hr : readString t with
    | error e => rw [hr] at h; cases h
    | ok r =>
      rw [hr] at h
      cases h
      have := ih hr
      simp; omega

theorem skipString_length {s rest : List Char} (h : skipString s = .ok rest) :
    rest.length < s.length := by
  fun_induction skipString s with
  | case1 => cases h
  | case2 => cases h; simp
  | case3 => cases h
  | case4 t more hm hlt ih => have := ih h; simp; omega
  | case5 => cases h
  | case6 c t _ _ _ ih => have := ih h; simp; omega

/-- Matches the letters of a word, the first of which was taken. -/
def readWord : (letters : List Char) → List Char → Except Error (List Char)
  | [], s => .ok s
  | _ :: _, [] => .error .endInValue
  | l :: letters, c :: rest => if c = l then readWord letters rest else .error .expectedWord

theorem readWord_length {letters s rest : List Char} (h : readWord letters s = .ok rest) :
    rest.length ≤ s.length := by
  induction letters generalizing s with
  | nil => cases h; exact Nat.le_refl _
  | cons l letters ih =>
    cases s with
    | nil => cases h
    | cons c t =>
      unfold readWord at h
      split at h
      · have := ih h
        simp; omega
      · cases h

/-- Digits at the start of a text, and what follows them. -/
def digits (s : List Char) : List Char × List Char :=
  (s.takeWhile Char.isDigit, s.dropWhile Char.isDigit)

theorem digits_length (s : List Char) : (digits s).2.length ≤ s.length :=
  (List.dropWhile_suffix Char.isDigit).length_le

/-- Steps over the exponent of a number, its letter having been taken. -/
def skipExponent (s : List Char) : Except Error (List Char) :=
  let s := match s with
    | '+' :: rest => rest
    | '-' :: rest => rest
    | s => s
  match digits s with
  | ([], _) => .error .invalidNumber
  | (_, rest) => .ok rest

/-- Steps over what may follow the whole part of a number. -/
def skipFraction (s : List Char) : Except Error (List Char) :=
  match s with
  | '.' :: rest =>
    match digits rest with
    | ([], _) => .error .invalidNumber
    | (_, 'e' :: rest) => skipExponent rest
    | (_, 'E' :: rest) => skipExponent rest
    | (_, rest) => .ok rest
  | 'e' :: rest => skipExponent rest
  | 'E' :: rest => skipExponent rest
  | s => .ok s

/-- Steps over a number, its sign having been taken. -/
def skipNumber (s : List Char) : Except Error (List Char) :=
  match digits s with
  | ([], _) => .error .invalidNumber
  | (['0'], rest) => skipFraction rest
  | ('0' :: _, _) => .error .invalidNumber
  | (_, rest) => skipFraction rest

theorem skipExponent_length {s rest : List Char} (h : skipExponent s = .ok rest) :
    rest.length ≤ s.length := by
  unfold skipExponent at h
  dsimp only at h
  split at h
  · cases h
  · rename_i t _ hd
    cases h
    have h2 := congrArg Prod.snd hd
    subst h2
    refine Nat.le_trans (digits_length _) ?_
    split <;> simp

theorem skipFraction_length {s rest : List Char} (h : skipFraction s = .ok rest) :
    rest.length ≤ s.length := by
  unfold skipFraction at h
  split at h
  · rename_i t
    have hd := digits_length t
    split at h
    · cases h
    · rename_i heq
      rw [heq] at hd
      have := skipExponent_length h
      simp at hd ⊢; omega
    · rename_i heq
      rw [heq] at hd
      have := skipExponent_length h
      simp at hd ⊢; omega
    · rename_i heq
      rw [heq] at hd
      cases h
      simp at hd ⊢; omega
  · have := skipExponent_length h
    simp; omega
  · have := skipExponent_length h
    simp; omega
  · cases h; exact Nat.le_refl _

/-- Something is taken, since there is a first digit. -/
theorem skipNumber_length {s rest : List Char} (h : skipNumber s = .ok rest) :
    rest.length < s.length := by
  unfold skipNumber at h
  have hsplit : (digits s).1.length + (digits s).2.length = s.length := by
    simp only [digits, ← List.length_append, List.takeWhile_append_dropWhile]
  split at h
  · cases h
  · rename_i heq
    rw [heq] at hsplit
    have := skipFraction_length h
    simp at hsplit; omega
  · cases h
  · rename_i ds t hne _ _ heq
    rw [heq] at hsplit
    have := skipFraction_length h
    have hpos : 0 < ds.length := by
      cases ds with
      | nil => exact absurd rfl hne
      | cons => simp
    simp at hsplit; omega

end Payout.Json
