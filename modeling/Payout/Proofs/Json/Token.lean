import Mathlib.Data.List.TakeWhile
import Payout.Json.Token
import Payout.Proofs.Outcome

/-!
# How strings and numbers are written

Blanks, strings with their escapes, and numbers, as sets of texts. A string ends at its quote, so that reading one
takes exactly such a text off the front of what is given. A number has no end of its own: stepping over one takes
all that can belong to it, and takes it whole where a delimiter follows.
-/
namespace Payout.Json

/-! ### Blanks -/

def Blank (s : List Char) : Prop :=
  ∀ c ∈ s, isBlank c = true

theorem Blank.nil : Blank [] := by
  simp [Blank]

theorem Blank.append {s t : List Char} (hs : Blank s) (ht : Blank t) : Blank (s ++ t) := by
  intro c hc
  rcases List.mem_append.1 hc with hc | hc
  · exact hs c hc
  · exact ht c hc

theorem skipBlanks_append {b : List Char} (hb : Blank b) (s : List Char) : skipBlanks (b ++ s) = skipBlanks s :=
  List.dropWhile_append_of_pos hb

theorem skipBlanks_cons {c : Char} (hc : isBlank c = false) (s : List Char) : skipBlanks (c :: s) = c :: s :=
  List.dropWhile_cons_of_neg (by simp [hc])

theorem skipBlanks_append_cons {b : List Char} {c : Char} (hb : Blank b) (hc : isBlank c = false) (s : List Char) :
    skipBlanks (b ++ c :: s) = c :: s := by
  rw [skipBlanks_append hb, skipBlanks_cons hc]

theorem exists_blank (s : List Char) : ∃ b, Blank b ∧ s = b ++ skipBlanks s := by
  refine ⟨s.takeWhile isBlank, ?_, List.takeWhile_append_dropWhile.symm⟩
  intro c hc
  exact List.mem_takeWhile_imp hc

theorem exists_blank_of_skipBlanks {s t : List Char} (h : skipBlanks s = t) : ∃ b, Blank b ∧ s = b ++ t :=
  h ▸ exists_blank s

theorem blank_of_skipBlanks {s : List Char} (h : skipBlanks s = []) : Blank s := by
  obtain ⟨b, hb, hs⟩ := exists_blank_of_skipBlanks h
  rw [hs, List.append_nil]
  exact hb

/-! ### Strings -/

/-- Four hexadecimal digits, and their number. -/
inductive Hex4 : Nat → List Char → Prop
  | mk {a b c d : Char} {x y z w : Nat} : Hex.digit? a = some x → Hex.digit? b = some y →
      Hex.digit? c = some z → Hex.digit? d = some w → Hex4 (((x * 16 + y) * 16 + z) * 16 + w) [a, b, c, d]

/-- A character, and what may stand for it after a backslash. One past the first 65536 takes two escapes, which
are the halves of it that stand for no character alone. -/
inductive Escape : Char → List Char → Prop
  | short {e c : Char} : shortEscape? e = some c → Escape c [e]
  | single {n : Nat} {raw : List Char} : Hex4 n raw → n < 0xD800 ∨ 0xDFFF < n →
      Escape (Char.ofNat n) ('u' :: raw)
  | pair {high low : Nat} {raw more : List Char} : Hex4 high raw → Hex4 low more →
      0xD800 ≤ high ∧ high ≤ 0xDBFF → 0xDC00 ≤ low ∧ low ≤ 0xDFFF →
      Escape (Char.ofNat ((high - 0xD800) * 1024 + (low - 0xDC00) + 0x10000)) ('u' :: (raw ++ '\\' :: 'u' :: more))

/-- A text, and what may stand for it between quotes. -/
inductive Spelling : List Char → List Char → Prop
  | nil : Spelling [] []
  | plain {c : Char} {text raw : List Char} : c ≠ '"' → c ≠ '\\' → 32 ≤ c.toNat → Spelling text raw →
      Spelling (c :: text) (c :: raw)
  | escape {c : Char} {text e raw : List Char} : Escape c e → Spelling text raw →
      Spelling (c :: text) ('\\' :: (e ++ raw))

/-- What may stand between quotes. It need not be the spelling of a text, since half a character can be escaped
without the other half. -/
inductive Quotable : List Char → Prop
  | nil : Quotable []
  | plain {c : Char} {raw : List Char} : c ≠ '"' → c ≠ '\\' → 32 ≤ c.toNat → Quotable raw → Quotable (c :: raw)
  | short {e c : Char} {raw : List Char} : shortEscape? e = some c → Quotable raw → Quotable ('\\' :: e :: raw)
  | unicode {n : Nat} {u raw : List Char} : Hex4 n u → Quotable raw → Quotable ('\\' :: 'u' :: (u ++ raw))

theorem Spelling.quotable {text raw : List Char} (h : Spelling text raw) : Quotable raw := by
  induction h with
  | nil => exact .nil
  | plain hquote hslash hc _ ih => exact .plain hquote hslash hc ih
  | escape he _ ih =>
    cases he with
    | short hs => exact .short hs ih
    | single hu _ => exact .unicode hu ih
    | pair hhigh hlow _ _ =>
      have hraw := Quotable.unicode hhigh (.unicode hlow ih)
      simpa only [List.cons_append, List.append_assoc] using hraw

theorem spelling_self {s : List Char} (h : ∀ c ∈ s, c ≠ '"' ∧ c ≠ '\\' ∧ 32 ≤ c.toNat) :
    Spelling s s := by
  induction s with
  | nil => exact .nil
  | cons c s ih =>
    rw [List.forall_mem_cons] at h
    exact .plain h.1.1 h.1.2.1 h.1.2.2 (ih h.2)

theorem four_le_byteLength (a b c d : Char) (rest : List Char) : 4 ≤ byteLength (a :: b :: c :: d :: rest) := by
  have ha := a.utf8Size_pos
  have hb := b.utf8Size_pos
  have hc := c.utf8Size_pos
  have hd := d.utf8Size_pos
  simp only [byteLength]
  omega

theorem Hex4.read {n : Nat} {raw : List Char} (h : Hex4 n raw) (rest : List Char) :
    readHex4 (raw ++ rest) = .ok (n, rest) := by
  cases h with
  | @mk a b c d x y z w ha hb hc hd =>
    have hlength := Nat.not_lt_of_le (four_le_byteLength a b c d rest)
    simp only [readHex4, List.cons_append, List.nil_append, hlength, if_false, ha, hb, hc, hd]

theorem readHex4_sound {s rest : List Char} {n : Nat} (h : readHex4 s = .ok (n, rest)) :
    ∃ raw, Hex4 n raw ∧ s = raw ++ rest := by
  unfold readHex4 at h
  split at h
  · cases h
  · split at h
    · split at h
      · cases h
        exact ⟨_, .mk ‹_› ‹_› ‹_› ‹_›, rfl⟩
      · cases h
    · cases h

theorem readLowSurrogate_sound {high : Nat} {s rest : List Char} {c : Char}
    (h : readLowSurrogate high s = .ok (c, rest)) :
    ∃ low raw, Hex4 low raw ∧ (0xDC00 ≤ low ∧ low ≤ 0xDFFF) ∧
      c = Char.ofNat ((high - 0xD800) * 1024 + (low - 0xDC00) + 0x10000) ∧ s = '\\' :: 'u' :: (raw ++ rest) := by
  unfold readLowSurrogate at h
  split at h
  · cases h
  · cases h
  · split at h
    · cases h
    · rename_i low _ hread
      obtain ⟨raw, hraw, rfl⟩ := readHex4_sound hread
      split at h
      · simp only [Except.ok.injEq, Prod.mk.injEq] at h
        obtain ⟨rfl, rfl⟩ := h
        exact ⟨low, raw, hraw, ‹_›, rfl, rfl⟩
      · cases h
  · cases h

theorem readUnicode_sound {s rest : List Char} {c : Char} (h : readUnicode s = .ok (c, rest)) :
    ∃ e, Escape c e ∧ 'u' :: s = e ++ rest := by
  unfold readUnicode at h
  split at h
  · cases h
  · rename_i n t hread
    obtain ⟨raw, hraw, rfl⟩ := readHex4_sound hread
    split at h
    · cases h
    · rename_i hlow
      split at h
      · rename_i hhigh
        obtain ⟨low, more, hmore, hrange, hc, rfl⟩ := readLowSurrogate_sound h
        rw [hc]
        exact ⟨_, .pair hraw hmore hhigh hrange, by simp⟩
      · cases h
        exact ⟨_, .single hraw (by omega), rfl⟩

theorem readEscape_sound {s rest : List Char} {c : Char} (h : readEscape s = .ok (c, rest)) :
    ∃ e, Escape c e ∧ s = e ++ rest := by
  unfold readEscape at h
  split at h
  · cases h
  · exact readUnicode_sound h
  · split at h
    · cases h
      exact ⟨_, .short ‹_›, rfl⟩
    · cases h

theorem ne_u_of_shortEscape {e c : Char} (h : shortEscape? e = some c) : e ≠ 'u' := by
  rintro rfl
  cases h

theorem Escape.read {c : Char} {e : List Char} (h : Escape c e) (rest : List Char) :
    readEscape (e ++ rest) = .ok (c, rest) := by
  cases h with
  | short hs => simp [readEscape, ne_u_of_shortEscape hs, hs]
  | @single n raw hraw hn =>
    have hlow : ¬(0xDC00 ≤ n ∧ n ≤ 0xDFFF) := by omega
    have hhigh : ¬(0xD800 ≤ n ∧ n ≤ 0xDBFF) := by omega
    simp only [List.cons_append, readEscape, readUnicode, hraw.read, hlow, hhigh, if_false]
  | @pair high low raw more hraw hmore hhigh hlow =>
    have hnot : ¬(0xDC00 ≤ high ∧ high ≤ 0xDFFF) := by omega
    simp only [List.cons_append, List.append_assoc, readEscape, readUnicode, hraw.read, hnot, if_false, hhigh,
      and_self, if_true, readLowSurrogate, hmore.read, hlow]

theorem readString_escape {s rest : List Char} {c : Char} (h : readEscape s = .ok (c, rest)) :
    readString ('\\' :: s) = (readString rest).map fun r => (c :: r.1, r.2) := by
  conv => lhs; rw [readString]
  split <;> simp_all

theorem readString_plain {c : Char} (hquote : c ≠ '"') (hslash : c ≠ '\\') (hc : 32 ≤ c.toNat) (s : List Char) :
    readString (c :: s) = (readString s).map fun r => (c :: r.1, r.2) := by
  rw [readString, if_neg (Nat.not_lt_of_le hc)]
  · exact hquote
  · exact hslash

/-- Reading a string takes the spelling of a text, and the quote after it. -/
theorem Spelling.read {text raw : List Char} (h : Spelling text raw) (rest : List Char) :
    readString (raw ++ '"' :: rest) = .ok (text, rest) := by
  induction h with
  | nil => rw [List.nil_append, readString]
  | plain hquote hslash hc _ ih =>
    rw [List.cons_append, readString_plain hquote hslash hc, ih]
    rfl
  | escape he _ ih =>
    rw [List.cons_append, List.append_assoc, readString_escape (he.read _), ih]
    rfl

theorem readString_sound {s text rest : List Char} (h : readString s = .ok (text, rest)) :
    ∃ raw, Spelling text raw ∧ s = raw ++ '"' :: rest := by
  fun_induction readString s generalizing text with
  | case1 => cases h
  | case2 => cases h; exact ⟨[], .nil, rfl⟩
  | case3 => cases h
  | case4 t c more hc _ ih =>
    obtain ⟨⟨text', _⟩, hr, heq⟩ := Outcome.map_eq_ok_iff.1 h
    cases heq
    obtain ⟨e, he, rfl⟩ := readEscape_sound hc
    obtain ⟨raw, hraw, rfl⟩ := ih hr
    exact ⟨_, .escape he hraw, by simp⟩
  | case5 => cases h
  | case6 c t hquote hslash hc ih =>
    obtain ⟨⟨text', _⟩, hr, heq⟩ := Outcome.map_eq_ok_iff.1 h
    cases heq
    obtain ⟨raw, hraw, rfl⟩ := ih hr
    exact ⟨_, .plain hquote hslash (Nat.le_of_not_lt hc) hraw, rfl⟩

theorem skipString_escape {s rest : List Char} (h : skipEscape s = .ok rest) :
    skipString ('\\' :: s) = skipString rest := by
  conv => lhs; rw [skipString]
  split <;> simp_all

theorem skipString_plain {c : Char} (hquote : c ≠ '"') (hslash : c ≠ '\\') (hc : 32 ≤ c.toNat) (s : List Char) :
    skipString (c :: s) = skipString s := by
  rw [skipString, if_neg (Nat.not_lt_of_le hc)]
  · exact hquote
  · exact hslash

/-- Stepping over a string takes what may stand between quotes, and the quote after it. -/
theorem Quotable.skip {raw : List Char} (h : Quotable raw) (rest : List Char) :
    skipString (raw ++ '"' :: rest) = .ok rest := by
  induction h with
  | nil => rw [List.nil_append, skipString]
  | plain hquote hslash hc _ ih => rw [List.cons_append, skipString_plain hquote hslash hc, ih]
  | @short e c raw hs _ ih =>
    have hskip : skipEscape (e :: (raw ++ '"' :: rest)) = .ok (raw ++ '"' :: rest) := by
      simp [skipEscape, ne_u_of_shortEscape hs, hs]
    rw [List.cons_append, List.cons_append, skipString_escape hskip, ih]
  | @unicode n u raw hu _ ih =>
    have hskip : skipEscape ('u' :: (u ++ (raw ++ '"' :: rest))) = .ok (raw ++ '"' :: rest) := by
      rw [skipEscape, hu.read]
      rfl
    rw [List.cons_append, List.cons_append, List.append_assoc, skipString_escape hskip, ih]

theorem skipString_sound {s rest : List Char} (h : skipString s = .ok rest) :
    ∃ raw, Quotable raw ∧ s = raw ++ '"' :: rest := by
  fun_induction skipString s with
  | case1 => cases h
  | case2 => cases h; exact ⟨[], .nil, rfl⟩
  | case3 => cases h
  | case4 t more hm _ ih =>
    obtain ⟨raw, hraw, rfl⟩ := ih h
    unfold skipEscape at hm
    split at hm
    · cases hm
    · obtain ⟨⟨n, _⟩, hread, heq⟩ := Outcome.map_eq_ok_iff.1 hm
      cases heq
      obtain ⟨u, hu, rfl⟩ := readHex4_sound hread
      exact ⟨_, .unicode hu hraw, by simp⟩
    · split at hm
      · cases hm
        exact ⟨_, .short ‹_› hraw, rfl⟩
      · cases hm
  | case5 => cases h
  | case6 c t hquote hslash hc ih =>
    obtain ⟨raw, hraw, rfl⟩ := ih h
    exact ⟨_, .plain hquote hslash (Nat.le_of_not_lt hc) hraw, rfl⟩

/-! ### Numbers -/

/-- One digit or more. -/
def Digits (s : List Char) : Prop :=
  s ≠ [] ∧ ∀ c ∈ s, c.isDigit = true

/-- The digits before the point, which start with zero only where that is all. -/
inductive Whole : List Char → Prop
  | zero : Whole ['0']
  | digits {s : List Char} : Digits s → s.head? ≠ some '0' → Whole s

inductive Fraction : List Char → Prop
  | absent : Fraction []
  | present {s : List Char} : Digits s → Fraction ('.' :: s)

inductive Exponent : List Char → Prop
  | absent : Exponent []
  | present {e : Char} {sign s : List Char} : e = 'e' ∨ e = 'E' → sign = [] ∨ sign = ['+'] ∨ sign = ['-'] →
      Digits s → Exponent (e :: (sign ++ s))

/-- A number without its sign. -/
inductive Unsigned : List Char → Prop
  | mk {w f e : List Char} : Whole w → Fraction f → Exponent e → Unsigned (w ++ (f ++ e))

/-- What can follow a value: nothing, a blank, a comma, or the end of a list or an object. -/
def Delimited (s : List Char) : Prop :=
  ∀ c ∈ s.head?, isBlank c = true ∨ c = ',' ∨ c = ']' ∨ c = '}'

theorem Delimited.not_in_number {c : Char} {s : List Char} (h : Delimited (c :: s)) :
    c.isDigit = false ∧ c ≠ '.' ∧ c ≠ 'e' ∧ c ≠ 'E' := by
  have hc : isBlank c = true ∨ c = ',' ∨ c = ']' ∨ c = '}' := h c rfl
  simp only [isBlank, Bool.or_eq_true, decide_eq_true_eq] at hc
  rcases hc with (((rfl | rfl) | rfl) | rfl) | rfl | rfl | rfl <;> decide

theorem delimited_cons {c : Char} (hc : isBlank c = true ∨ c = ',' ∨ c = ']' ∨ c = '}') (s : List Char) :
    Delimited (c :: s) := by
  intro d hd
  cases hd
  exact hc

theorem Delimited.append {s t : List Char} (hs : Delimited s) (ht : Delimited t) : Delimited (s ++ t) := by
  cases s with
  | nil => exact ht
  | cons c s => exact hs

theorem Blank.delimited {b : List Char} (hb : Blank b) : Delimited b := by
  intro c hc
  exact .inl (hb c (List.mem_of_mem_head? hc))

theorem digits_eq {s ds rest : List Char} (h : digits s = (ds, rest)) :
    (∀ c ∈ ds, c.isDigit = true) ∧ s = ds ++ rest := by
  cases h
  exact ⟨fun c hc => List.mem_takeWhile_imp hc, List.takeWhile_append_dropWhile.symm⟩

/-- All digits are taken where no digit follows them. -/
theorem digits_append {ds rest : List Char} (hds : ∀ c ∈ ds, c.isDigit = true)
    (hrest : ∀ c ∈ rest.head?, c.isDigit = false) : digits (ds ++ rest) = (ds, rest) := by
  unfold digits
  rw [List.takeWhile_append_of_pos hds, List.dropWhile_append_of_pos hds]
  cases rest with
  | nil => simp
  | cons c rest => simp [hrest c rfl]

theorem skipExponent_sound {s rest : List Char} (h : skipExponent s = .ok rest) :
    ∃ sign ds, (sign = [] ∨ sign = ['+'] ∨ sign = ['-']) ∧ Digits ds ∧ s = sign ++ (ds ++ rest) := by
  unfold skipExponent at h
  dsimp only at h
  split at h
  · cases h
  · rename_i ds t hne hd
    cases h
    split at hd
    · obtain ⟨hds, rfl⟩ := digits_eq hd
      exact ⟨['+'], ds, .inr (.inl rfl), ⟨hne, hds⟩, rfl⟩
    · obtain ⟨hds, rfl⟩ := digits_eq hd
      exact ⟨['-'], ds, .inr (.inr rfl), ⟨hne, hds⟩, rfl⟩
    · obtain ⟨hds, rfl⟩ := digits_eq hd
      exact ⟨[], ds, .inl rfl, ⟨hne, hds⟩, rfl⟩

theorem skipExponent_complete {sign ds rest : List Char} (hsign : sign = [] ∨ sign = ['+'] ∨ sign = ['-'])
    (hds : Digits ds) (hrest : ∀ c ∈ rest.head?, c.isDigit = false) :
    skipExponent (sign ++ (ds ++ rest)) = .ok rest := by
  have hsplit := digits_append hds.2 hrest
  obtain ⟨d, ds, rfl⟩ := List.exists_cons_of_ne_nil hds.1
  rcases hsign with rfl | rfl | rfl
  · have hd := hds.2 d (List.mem_cons_self)
    have hplus : d ≠ '+' := by
      rintro rfl
      cases hd
    have hminus : d ≠ '-' := by
      rintro rfl
      cases hd
    simp_all [skipExponent]
  · simp_all [skipExponent]
  · simp_all [skipExponent]

theorem Exponent.of_skip {e : Char} {s rest : List Char} (he : e = 'e' ∨ e = 'E')
    (h : skipExponent s = .ok rest) : ∃ x, Exponent x ∧ e :: s = x ++ rest := by
  obtain ⟨sign, ds, hsign, hds, rfl⟩ := skipExponent_sound h
  exact ⟨_, .present he hsign hds, by simp⟩

theorem skipFraction_sound {s rest : List Char} (h : skipFraction s = .ok rest) :
    ∃ f e, Fraction f ∧ Exponent e ∧ s = f ++ (e ++ rest) := by
  unfold skipFraction at h
  split at h
  · split at h
    · cases h
    · rename_i hne hd
      obtain ⟨hds, rfl⟩ := digits_eq hd
      obtain ⟨e, he, heq⟩ := Exponent.of_skip (.inl rfl) h
      exact ⟨_, e, .present ⟨hne, hds⟩, he, by rw [heq]; rfl⟩
    · rename_i hne hd
      obtain ⟨hds, rfl⟩ := digits_eq hd
      obtain ⟨e, he, heq⟩ := Exponent.of_skip (.inr rfl) h
      exact ⟨_, e, .present ⟨hne, hds⟩, he, by rw [heq]; rfl⟩
    · rename_i hne _ _ hd
      cases h
      obtain ⟨hds, rfl⟩ := digits_eq hd
      exact ⟨_, [], .present ⟨hne, hds⟩, .absent, rfl⟩
  · obtain ⟨e, he, heq⟩ := Exponent.of_skip (.inl rfl) h
    exact ⟨[], e, .absent, he, heq⟩
  · obtain ⟨e, he, heq⟩ := Exponent.of_skip (.inr rfl) h
    exact ⟨[], e, .absent, he, heq⟩
  · cases h
    exact ⟨[], [], .absent, .absent, rfl⟩

theorem Exponent.head {e rest : List Char} (he : Exponent e) (hrest : Delimited rest) :
    ∀ c ∈ (e ++ rest).head?, c.isDigit = false ∧ c ≠ '.' := by
  cases he with
  | absent =>
    cases rest with
    | nil => simp
    | cons c rest => simpa using ⟨hrest.not_in_number.1, hrest.not_in_number.2.1⟩
  | present hletter => rcases hletter with rfl | rfl <;> simp

theorem Exponent.skip {e rest : List Char} (he : Exponent e) (hrest : Delimited rest) :
    skipFraction (e ++ rest) = .ok rest := by
  cases he with
  | absent =>
    cases rest with
    | nil => rfl
    | cons c rest =>
      obtain ⟨-, hpoint, hlower, hupper⟩ := hrest.not_in_number
      simp [skipFraction, hpoint, hlower, hupper]
  | present hletter hsign hds =>
    have hhead : ∀ c ∈ rest.head?, c.isDigit = false := fun c hc => (Exponent.absent.head hrest c hc).1
    have hskip := skipExponent_complete hsign hds hhead
    rcases hletter with rfl | rfl <;> simpa [skipFraction] using hskip

/-- Past the point and its digits it goes on as without them. -/
theorem skipFraction_point {s ds t : List Char} {d : Char} (h : digits s = (d :: ds, t)) (ht : t.head? ≠ some '.') :
    skipFraction ('.' :: s) = skipFraction t := by
  rw [skipFraction, h]
  cases t with
  | nil => rfl
  | cons c t =>
    have hpoint : c ≠ '.' := by simpa using ht
    by_cases hlower : c = 'e'
    · rw [hlower]
      rfl
    by_cases hupper : c = 'E'
    · rw [hupper]
      rfl
    simp [skipFraction, hpoint, hlower, hupper]

theorem Fraction.skip {f e rest : List Char} (hf : Fraction f) (he : Exponent e) (hrest : Delimited rest) :
    skipFraction (f ++ (e ++ rest)) = .ok rest := by
  cases hf with
  | absent => exact he.skip hrest
  | @present fs hfs =>
    have hhead := he.head hrest
    have hsplit := digits_append hfs.2 fun c hc => (hhead c hc).1
    have hpoint : (e ++ rest).head? ≠ some '.' := fun hc => (hhead '.' hc).2 rfl
    obtain ⟨d, fs, rfl⟩ := List.exists_cons_of_ne_nil hfs.1
    rw [List.cons_append, skipFraction_point hsplit hpoint, he.skip hrest]

/-- Stepping over a number takes one off the front. -/
theorem skipNumber_sound {s rest : List Char} (h : skipNumber s = .ok rest) :
    ∃ raw, Unsigned raw ∧ s = raw ++ rest := by
  unfold skipNumber at h
  split at h
  · cases h
  · rename_i t hd
    obtain ⟨f, e, hf, he, rfl⟩ := skipFraction_sound h
    obtain ⟨-, rfl⟩ := digits_eq hd
    exact ⟨_, .mk .zero hf he, by simp⟩
  · cases h
  · rename_i ds t hne _ hzero hd
    obtain ⟨f, e, hf, he, rfl⟩ := skipFraction_sound h
    obtain ⟨hds, rfl⟩ := digits_eq hd
    have hhead : ds.head? ≠ some '0' := by
      intro hhead
      obtain ⟨ds, rfl⟩ := List.head?_eq_some_iff.1 hhead
      exact hzero ds rfl
    exact ⟨_, .mk (.digits ⟨hne, hds⟩ hhead) hf he, by simp⟩

/-- A number is taken whole where it is delimited. -/
theorem Unsigned.skip {raw rest : List Char} (h : Unsigned raw) (hrest : Delimited rest) :
    skipNumber (raw ++ rest) = .ok rest := by
  cases h with
  | @mk w f e hw hf he =>
    have htail := hf.skip he hrest
    have hhead : ∀ c ∈ (f ++ (e ++ rest)).head?, c.isDigit = false := by
      cases hf with
      | absent => exact fun c hc => (he.head hrest c hc).1
      | present => simp
    rw [List.append_assoc, List.append_assoc]
    cases hw with
    | zero =>
      have hzero : ∀ c ∈ ['0'], c.isDigit = true := by simp
      have hsplit := digits_append hzero hhead
      simp only [skipNumber, hsplit, htail]
    | digits hds hzero =>
      have hsplit := digits_append hds.2 hhead
      obtain ⟨d, w, rfl⟩ := List.exists_cons_of_ne_nil hds.1
      have hd : d ≠ '0' := by simpa using hzero
      rw [skipNumber, hsplit]
      simp [hd, htail]

end Payout.Json
