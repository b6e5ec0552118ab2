/-!
# Fields of a text

A text cut at every occurrence of a separator. There is always at least one field, and putting the
separators back gives the text again, so nothing is lost by cutting.
-/
namespace Payout.Text

/-- The fields between the separators. -/
def splitOn (separator : Char) : List Char → List (List Char)
  | [] => [[]]
  | c :: rest =>
    if c = separator then [] :: splitOn separator rest
    else
      match splitOn separator rest with
      | [] => [[c]]
      | field :: fields => (c :: field) :: fields

/-- Fields with separators between them. -/
def join (separator : Char) : List (List Char) → List Char
  | [] => []
  | [field] => field
  | field :: next :: fields => field ++ separator :: join separator (next :: fields)

theorem splitOn_ne_nil (separator : Char) (s : List Char) : splitOn separator s ≠ [] := by
  cases s with
  | nil => simp [splitOn]
  | cons c rest =>
    unfold splitOn
    split
    · simp
    · split <;> simp

theorem join_cons_cons (separator c : Char) (field : List Char) (fields : List (List Char)) :
    join separator ((c :: field) :: fields) = c :: join separator (field :: fields) := by
  cases fields <;> rfl

@[simp] theorem join_splitOn (separator : Char) (s : List Char) :
    join separator (splitOn separator s) = s := by
  induction s with
  | nil => rfl
  | cons c rest ih =>
    unfold splitOn
    split
    · rename_i hc
      cases h : splitOn separator rest with
      | nil => exact absurd h (splitOn_ne_nil separator rest)
      | cons field fields =>
        rw [h] at ih
        simp [join, ih, hc]
    · split
      · rename_i h
        exact absurd h (splitOn_ne_nil separator rest)
      · rename_i h
        rw [join_cons_cons, ← h, ih]

/-- No field holds the separator. -/
theorem separator_notMem_splitOn {separator : Char} {s field : List Char}
    (h : field ∈ splitOn separator s) : separator ∉ field := by
  induction s generalizing field with
  | nil => simp [splitOn] at h; simp [h]
  | cons c rest ih =>
    unfold splitOn at h
    by_cases hc : c = separator
    · rw [if_pos hc] at h
      rcases List.mem_cons.1 h with rfl | h
      · simp
      · exact ih h
    · rw [if_neg hc] at h
      split at h
      · rename_i hn
        exact absurd hn (splitOn_ne_nil separator rest)
      · rename_i first fields hs
        rcases List.mem_cons.1 h with rfl | h
        · have : separator ∉ first := ih (by simp [hs])
          simp only [List.mem_cons, not_or]
          exact ⟨fun e => hc e.symm, this⟩
        · exact ih (by simp [hs, h])

/-- A text without the separator is a single field. -/
theorem splitOn_of_notMem {separator : Char} {s : List Char} (h : separator ∉ s) :
    splitOn separator s = [s] := by
  induction s with
  | nil => rfl
  | cons c rest ih =>
    have hc : c ≠ separator := fun hc => h (by simp [hc])
    have hrest : separator ∉ rest := fun hmem => h (by simp [hmem])
    rw [splitOn, if_neg hc, ih hrest]

theorem join_cons (separator : Char) (field : List Char) {fields : List (List Char)} (h : fields ≠ []) :
    join separator (field :: fields) = field ++ separator :: join separator fields := by
  cases fields with
  | nil => exact absurd rfl h
  | cons next fields => rfl

theorem splitOn_append {separator : Char} {field : List Char} (h : separator ∉ field) (rest : List Char) :
    splitOn separator (field ++ separator :: rest) = field :: splitOn separator rest := by
  induction field with
  | nil => simp [splitOn]
  | cons c field ih =>
    have hc : c ≠ separator := fun hc => h (by simp [hc])
    have hfield : separator ∉ field := fun hmem => h (by simp [hmem])
    rw [List.cons_append, splitOn, if_neg hc, ih hfield]

/-- Fields without the separator are found again. -/
theorem splitOn_join {separator : Char} {fields : List (List Char)} (hne : fields ≠ [])
    (h : ∀ field ∈ fields, separator ∉ field) : splitOn separator (join separator fields) = fields := by
  induction fields with
  | nil => exact absurd rfl hne
  | cons field fields ih =>
    obtain ⟨hfield, hfields⟩ := List.forall_mem_cons.mp h
    cases fields with
    | nil => exact splitOn_of_notMem hfield
    | cons next fields =>
      have hrest := ih (List.cons_ne_nil _ _) hfields
      rw [join_cons separator field (List.cons_ne_nil _ _), splitOn_append hfield, hrest]

/-- The fields of a text between blanks, empty ones left out. -/
def words (s : List Char) : List (List Char) :=
  (splitOn ' ' s).filter (· ≠ [])

end Payout.Text
