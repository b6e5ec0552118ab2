import Payout.Json.Skip
import Payout.Proofs.Json.Token

/-!
# How values are written

The grammar of JSON: scalars, and lists and objects of values in turn. Stepping over a value takes one written by
this grammar off the front of a text, and takes every one where it is delimited, however deep it is nested.
-/
namespace Payout.Json

/-- A value that is neither a list nor an object. -/
inductive Scalar : List Char → Prop
  | null : Scalar ['n', 'u', 'l', 'l']
  | true : Scalar ['t', 'r', 'u', 'e']
  | false : Scalar ['f', 'a', 'l', 's', 'e']
  | string {raw : List Char} : Quotable raw → Scalar ('"' :: (raw ++ ['"']))
  | natural {raw : List Char} : Unsigned raw → Scalar raw
  | negative {raw : List Char} : Unsigned raw → Scalar ('-' :: raw)

/-- How a list or an object starts. -/
def Frame.opening : Frame → Char
  | list => '['
  | object => '{'

/-- What stands before a value in a frame: a name and a colon in an object, nothing in a list. -/
inductive Lead : Frame → List Char → Prop
  | list : Lead .list []
  | object {b raw b' : List Char} : Blank b → Quotable raw → Blank b' →
      Lead .object (b ++ '"' :: (raw ++ '"' :: (b' ++ [':'])))

/-- What a text can be within a value. -/
inductive Part where
  /-- A value. -/
  | value
  /-- All that stands in a frame. -/
  | content (f : Frame)
  /-- An item of a frame, and what follows it there. -/
  | items (f : Frame)
  /-- What follows an item of a frame. -/
  | rest (f : Frame)

/-- The texts of values and of their parts. -/
inductive Written : Part → List Char → Prop
  | scalar {s : List Char} : Scalar s → Written .value s
  | frame {f : Frame} {s : List Char} : Written (.content f) s → Written .value (f.opening :: (s ++ [f.closing]))
  | empty {f : Frame} {b : List Char} : Blank b → Written (.content f) b
  | full {f : Frame} {s : List Char} : Written (.items f) s → Written (.content f) s
  | item {f : Frame} {l b v t : List Char} : Lead f l → Blank b → Written .value v → Written (.rest f) t →
      Written (.items f) (l ++ (b ++ (v ++ t)))
  | last {f : Frame} {b : List Char} : Blank b → Written (.rest f) b
  | next {f : Frame} {b s : List Char} : Blank b → Written (.items f) s → Written (.rest f) (b ++ ',' :: s)

/-! ### What is stepped over is a value -/

theorem readWord_eq_ok_iff {letters s rest : List Char} : readWord letters s = .ok rest ↔ s = letters ++ rest := by
  induction letters generalizing s with
  | nil => simp [readWord]
  | cons l letters ih =>
    cases s with
    | nil => simp [readWord]
    | cons c s =>
      by_cases hc : c = l
      · simp [readWord, hc, ih]
      · simp [readWord, hc]

theorem skipScalar_sound {c : Char} {s rest : List Char} (h : skipScalar c s = .ok rest) :
    ∃ v, Scalar v ∧ c :: s = v ++ rest := by
  unfold skipScalar at h
  split at h
  · obtain ⟨raw, hraw, rfl⟩ := skipString_sound h
    exact ⟨_, .string hraw, by simp [*]⟩
  split at h
  · rw [readWord_eq_ok_iff.1 h]
    exact ⟨_, .null, by simp [*]⟩
  split at h
  · rw [readWord_eq_ok_iff.1 h]
    exact ⟨_, .true, by simp [*]⟩
  split at h
  · rw [readWord_eq_ok_iff.1 h]
    exact ⟨_, .false, by simp [*]⟩
  split at h
  · obtain ⟨raw, hraw, rfl⟩ := skipNumber_sound h
    exact ⟨_, .negative hraw, by simp [*]⟩
  split at h
  · obtain ⟨raw, hraw, heq⟩ := skipNumber_sound h
    exact ⟨raw, .natural hraw, heq⟩
  · cases h

theorem readColon_sound {s rest : List Char} (h : readColon s = .ok rest) : ∃ b, Blank b ∧ s = b ++ ':' :: rest := by
  unfold readColon at h
  split at h
  · cases h
  · rename_i hs
    cases h
    exact exists_blank_of_skipBlanks hs
  · cases h

theorem readColon_complete {b : List Char} (hb : Blank b) (rest : List Char) :
    readColon (b ++ ':' :: rest) = .ok rest := by
  simp [readColon, skipBlanks_append_cons hb (c := ':') rfl]

theorem Frame.lead_sound {f : Frame} {s rest : List Char} (h : f.lead s = .ok rest) :
    ∃ l, Lead f l ∧ s = l ++ rest := by
  cases f with
  | list =>
    cases h
    exact ⟨[], .list, rfl⟩
  | object =>
    change skipKey s = .ok rest at h
    unfold skipKey at h
    split at h
    · cases h
    · rename_i hs
      obtain ⟨b, hb, rfl⟩ := exists_blank_of_skipBlanks hs
      split at h
      · rename_i hstring
        obtain ⟨raw, hraw, rfl⟩ := skipString_sound hstring
        obtain ⟨b', hb', rfl⟩ := readColon_sound h
        exact ⟨_, .object hb hraw hb', by simp⟩
      · cases h
    · cases h

/-- Blanks before an item belong to what it starts with. -/
theorem Written.items_after {f : Frame} {b s : List Char} (hb : Blank b) (h : Written (.items f) s) :
    Written (.items f) (b ++ s) := by
  cases h with
  | item hl hb' hv ht =>
    cases hl with
    | list =>
      have h := Written.item .list (hb.append hb') hv ht
      simpa only [List.nil_append, List.append_assoc] using h
    | object hb₀ hraw hb₁ =>
      have h := Written.item (.object (hb.append hb₀) hraw hb₁) hb' hv ht
      simpa only [List.append_assoc] using h

/-- What is left of a text within open frames, the innermost first, when it is stepped over. -/
inductive Closes : List Frame → Expect → List Char → Prop
  | done {expect : Expect} : expect ≠ .value → Closes [] expect []
  | value {stack : List Frame} {b v s : List Char} : Blank b → Written .value v → Closes stack .more s →
      Closes stack .value (b ++ (v ++ s))
  | first {f : Frame} {stack : List Frame} {s t : List Char} : Written (.content f) s → Closes stack .more t →
      Closes (f :: stack) .first (s ++ f.closing :: t)
  | more {f : Frame} {stack : List Frame} {s t : List Char} : Written (.rest f) s → Closes stack .more t →
      Closes (f :: stack) .more (s ++ f.closing :: t)

theorem skipFrom_sound {stack : List Frame} {expect : Expect} {s rest : List Char}
    (h : skipFrom stack expect s = .ok rest) : ∃ raw, Closes stack expect raw ∧ s = raw ++ rest := by
  fun_induction skipFrom stack expect s with
  | case1 => cases h
  | case2 s stack t hs ih =>
    obtain ⟨b, hb, rfl⟩ := exists_blank_of_skipBlanks hs
    obtain ⟨raw, hraw, rfl⟩ := ih h
    cases hraw with
    | @first _ _ u v hu hv => exact ⟨_, .value hb (.frame hu) hv, by simp [Frame.opening]⟩
  | case3 s stack t hs ih =>
    obtain ⟨b, hb, rfl⟩ := exists_blank_of_skipBlanks hs
    obtain ⟨raw, hraw, rfl⟩ := ih h
    cases hraw with
    | @first _ _ u v hu hv => exact ⟨_, .value hb (.frame hu) hv, by simp [Frame.opening]⟩
  | case4 s stack c t _ _ hs more hmore _ ih =>
    obtain ⟨b, hb, rfl⟩ := exists_blank_of_skipBlanks hs
    obtain ⟨v, hv, heq⟩ := skipScalar_sound hmore
    obtain ⟨raw, hraw, rfl⟩ := ih h
    exact ⟨_, .value hb (.scalar hv) hraw, by simp [heq]⟩
  | case5 => cases h
  | case6 s expect hexpect =>
    cases h
    exact ⟨[], .done hexpect, rfl⟩
  | case7 => cases h
  | case8 s frame stack t hs ih =>
    obtain ⟨b, hb, rfl⟩ := exists_blank_of_skipBlanks hs
    obtain ⟨raw, hraw, rfl⟩ := ih h
    exact ⟨_, .first (.empty hb) hraw, by simp⟩
  | case9 s frame stack c t hs _ more hmore _ ih =>
    obtain ⟨b, hb, rfl⟩ := exists_blank_of_skipBlanks hs
    obtain ⟨l, hl, heq⟩ := Frame.lead_sound hmore
    obtain ⟨raw, hraw, rfl⟩ := ih h
    cases hraw with
    | value hb' hv hraw =>
      cases hraw with
      | more hu ht =>
        have hitems := Written.items_after hb (.item hl hb' hv hu)
        exact ⟨_, .first (.full hitems) ht, by simp [heq]⟩
  | case10 => cases h
  | case11 => cases h
  | case12 s frame stack t hs ih =>
    obtain ⟨b, hb, rfl⟩ := exists_blank_of_skipBlanks hs
    obtain ⟨raw, hraw, rfl⟩ := ih h
    exact ⟨_, .more (.last hb) hraw, by simp⟩
  | case13 s frame stack t more hmore _ hs _ ih =>
    obtain ⟨b, hb, rfl⟩ := exists_blank_of_skipBlanks hs
    obtain ⟨l, hl, rfl⟩ := Frame.lead_sound hmore
    obtain ⟨raw, hraw, rfl⟩ := ih h
    cases hraw with
    | value hb' hv hraw =>
      cases hraw with
      | more hu ht => exact ⟨_, .more (.next hb (.item hl hb' hv hu)) ht, by simp⟩
  | case14 => cases h
  | case15 => cases h

/-! ### A value is stepped over -/

theorem ne_of_isDigit {c d : Char} (hd : d.isDigit = true) (hc : c.isDigit = false) : d ≠ c := by
  rintro rfl
  rw [hd] at hc
  cases hc

theorem Unsigned.head {raw : List Char} (h : Unsigned raw) : ∃ d t, raw = d :: t ∧ d.isDigit = true := by
  cases h with
  | mk hw _ _ =>
    cases hw with
    | zero => exact ⟨'0', _, rfl, rfl⟩
    | digits hds =>
      obtain ⟨d, t, rfl⟩ := List.exists_cons_of_ne_nil hds.1
      exact ⟨d, _, rfl, hds.2 d List.mem_cons_self⟩

/-- A scalar is told by its first character. -/
theorem skipScalar_complete {s rest : List Char} (h : Scalar s) (hrest : Delimited rest) :
    ∃ c t, s ++ rest = c :: t ∧ isBlank c = false ∧ c ∉ ['[', '{', ']', '}'] ∧ skipScalar c t = .ok rest := by
  cases h with
  | null => exact ⟨'n', _, rfl, rfl, by decide, readWord_eq_ok_iff.2 rfl⟩
  | true => exact ⟨'t', _, rfl, rfl, by decide, readWord_eq_ok_iff.2 rfl⟩
  | false => exact ⟨'f', _, rfl, rfl, by decide, readWord_eq_ok_iff.2 rfl⟩
  | @string raw hraw =>
    have hskip := hraw.skip rest
    exact ⟨'"', _, rfl, rfl, by decide, by simpa [skipScalar] using hskip⟩
  | natural hraw =>
    have hskip := hraw.skip hrest
    obtain ⟨d, t, rfl, hd⟩ := hraw.head
    refine ⟨d, t ++ rest, rfl, ?_, ?_, ?_⟩
    · simp [isBlank, ne_of_isDigit hd]
    · simp [ne_of_isDigit hd]
    · simpa [skipScalar, ne_of_isDigit hd, hd] using hskip
  | negative hraw => exact ⟨'-', _, rfl, rfl, by decide, hraw.skip hrest⟩

theorem Lead.skip {f : Frame} {l : List Char} (h : Lead f l) (s : List Char) : f.lead (l ++ s) = .ok s := by
  cases h with
  | list => rfl
  | object hb hraw hb' =>
    simp only [Frame.lead, skipKey, List.append_assoc, List.cons_append, List.nil_append,
      skipBlanks_append_cons hb (c := '"') rfl, hraw.skip, readColon_complete hb']

section steps

variable {f : Frame} {stack : List Frame} {c : Char} {s t rest : List Char}

theorem skipFrom_scalar (hs : skipBlanks s = c :: t) (hc : c ≠ '[' ∧ c ≠ '{') (h : skipScalar c t = .ok rest) :
    skipFrom stack .value s = skipFrom stack .more rest := by
  conv => lhs; rw [skipFrom]
  split <;> grind

theorem skipFrom_opening (hs : skipBlanks s = f.opening :: t) :
    skipFrom stack .value s = skipFrom (f :: stack) .first t := by
  conv => lhs; rw [skipFrom]
  cases f <;> split <;> grind [Frame.opening]

theorem skipFrom_first_closing (hs : skipBlanks s = f.closing :: t) :
    skipFrom (f :: stack) .first s = skipFrom stack .more t := by
  conv => lhs; rw [skipFrom]
  split <;> grind

theorem skipFrom_more_closing (hs : skipBlanks s = f.closing :: t) :
    skipFrom (f :: stack) .more s = skipFrom stack .more t := by
  conv => lhs; rw [skipFrom]
  split <;> grind

theorem skipFrom_first_item (hs : skipBlanks s = c :: t) (hc : c ≠ f.closing) (h : f.lead (c :: t) = .ok rest) :
    skipFrom (f :: stack) .first s = skipFrom (f :: stack) .value rest := by
  conv => lhs; rw [skipFrom]
  split <;> grind

theorem skipFrom_more_item (hs : skipBlanks s = ',' :: t) (h : f.lead t = .ok rest) :
    skipFrom (f :: stack) .more s = skipFrom (f :: stack) .value rest := by
  have hc : ',' ≠ f.closing := by cases f <;> decide
  conv => lhs; rw [skipFrom]
  split <;> grind

end steps

/-- A value starts with a character that is no blank and ends nothing. -/
theorem Written.head {v : List Char} (h : Written .value v) (rest : List Char) (hrest : Delimited rest) :
    ∃ c t, v ++ rest = c :: t ∧ isBlank c = false ∧ c ∉ [']', '}'] := by
  cases h with
  | scalar hs =>
    obtain ⟨c, t, heq, hblank, hc, -⟩ := skipScalar_complete hs hrest
    exact ⟨c, t, heq, hblank, by simp_all⟩
  | @frame f _ _ => cases f <;> exact ⟨_, _, rfl, rfl, by decide⟩

theorem Frame.delimited_closing (f : Frame) (s : List Char) : Delimited (f.closing :: s) := by
  cases f
  · exact delimited_cons (by simp [closing]) s
  · exact delimited_cons (by simp [closing]) s

theorem Frame.closing_not_blank (f : Frame) : isBlank f.closing = false := by
  cases f <;> rfl

theorem Written.rest_delimited {f : Frame} {s : List Char} (h : Written (.rest f) s) (t : List Char) :
    Delimited (s ++ f.closing :: t) := by
  cases h with
  | last hb => exact hb.delimited.append (f.delimited_closing t)
  | next hb _ =>
    rw [List.append_assoc]
    exact hb.delimited.append (delimited_cons (by simp) _)

/-- What stands before a value in a frame, with blanks or without. -/
theorem Lead.first {f : Frame} {l b v rest : List Char} (hl : Lead f l) (hb : Blank b) (hv : Written .value v)
    (hrest : Delimited rest) :
    ∃ c t b', Blank b' ∧ skipBlanks (l ++ (b ++ (v ++ rest))) = c :: t ∧ c ≠ f.closing ∧
      f.lead (c :: t) = .ok (b' ++ (v ++ rest)) := by
  cases hl with
  | list =>
    obtain ⟨c, t, heq, hblank, hc⟩ := hv.head rest hrest
    refine ⟨c, t, [], .nil, ?_, ?_, ?_⟩
    · rw [heq, List.nil_append, skipBlanks_append_cons hb hblank]
    · simp_all [Frame.closing]
    · rw [← heq]
      rfl
  | @object b₀ raw b₁ hb₀ hraw hb₁ =>
    have hlead := (Lead.object .nil hraw hb₁).skip (b ++ (v ++ rest))
    refine ⟨'"', raw ++ '"' :: (b₁ ++ ':' :: (b ++ (v ++ rest))), b, hb, ?_, ?_, ?_⟩
    · rw [List.append_assoc, List.cons_append, skipBlanks_append_cons hb₀ rfl]
      simp
    · decide
    · simpa using hlead

/-- How a part of a value is stepped over, whatever follows it. -/
def Part.Passes : Part → List Char → Prop
  | value, v => ∀ stack b rest, Blank b → Delimited rest →
      skipFrom stack .value (b ++ (v ++ rest)) = skipFrom stack .more rest
  | content f, s => ∀ stack t, skipFrom (f :: stack) .first (s ++ f.closing :: t) = skipFrom stack .more t
  | items f, s => ∀ stack t, skipFrom (f :: stack) .first (s ++ f.closing :: t) = skipFrom stack .more t ∧
      ∀ b, Blank b → skipFrom (f :: stack) .more (b ++ ',' :: (s ++ f.closing :: t)) = skipFrom stack .more t
  | rest f, s => ∀ stack t, skipFrom (f :: stack) .more (s ++ f.closing :: t) = skipFrom stack .more t

theorem Written.passes {p : Part} {s : List Char} (h : Written p s) : p.Passes s := by
  induction h with
  | scalar hs =>
    intro stack b rest hb hrest
    obtain ⟨c, t, heq, hblank, hc, hskip⟩ := skipScalar_complete hs hrest
    rw [heq]
    exact skipFrom_scalar (skipBlanks_append_cons hb hblank t) (by simp_all) hskip
  | @frame f s _ ih =>
    intro stack b rest hb _
    have hblank : isBlank f.opening = false := by cases f <;> rfl
    rw [List.cons_append, skipFrom_opening (skipBlanks_append_cons hb hblank _), List.append_assoc]
    exact ih stack rest
  | @empty f b hb =>
    intro stack t
    exact skipFrom_first_closing (skipBlanks_append_cons hb f.closing_not_blank t)
  | full _ ih => exact fun stack t => (ih stack t).1
  | @item f l b v s hl hb hv hs ihv ihs =>
    intro stack t
    have hrest := hs.rest_delimited t
    have hsame : l ++ (b ++ (v ++ s)) ++ f.closing :: t = l ++ (b ++ (v ++ (s ++ f.closing :: t))) := by simp
    rw [hsame]
    constructor
    · obtain ⟨c, t', b', hb', hskip, hc, hlead⟩ := hl.first hb hv hrest
      rw [skipFrom_first_item hskip hc hlead, ihv _ _ _ hb' hrest, ihs]
    · intro b' hb'
      rw [skipFrom_more_item (skipBlanks_append_cons hb' rfl _) (hl.skip _), ihv _ _ _ hb hrest, ihs]
  | @last f b hb =>
    intro stack t
    exact skipFrom_more_closing (skipBlanks_append_cons hb f.closing_not_blank t)
  | next hb _ ih =>
    intro stack t
    rw [List.append_assoc, List.cons_append]
    exact (ih stack t).2 _ hb

theorem skip_sound {s rest : List Char} (h : skip s = .ok rest) :
    ∃ b v, Blank b ∧ Written .value v ∧ s = b ++ (v ++ rest) := by
  obtain ⟨raw, hraw, rfl⟩ := skipFrom_sound h
  cases hraw with
  | done hne => exact absurd rfl hne
  | value hb hv hs =>
    cases hs
    exact ⟨_, _, hb, hv, by simp⟩

/-- A delimited value is stepped over, to where it ends. -/
theorem skip_complete {b v rest : List Char} (hb : Blank b) (hv : Written .value v) (hrest : Delimited rest) :
    skip (b ++ (v ++ rest)) = .ok rest := by
  rw [skip, hv.passes [] b rest hb hrest, skipFrom]
  intro h
  cases h

end Payout.Json
