import Payout.Json.Token

/-!
# Stepping over values

A value that nobody asked for is stepped over. The lists and objects that are open are kept on a stack,
the innermost first, so that values may be nested to any depth.
-/
namespace Payout.Json

/-- What a value can be in. -/
inductive Frame where
  | list
  | object
deriving DecidableEq, Repr

/-- What is to come next. -/
inductive Expect where
  /-- A value. -/
  | value
  /-- The end of the innermost frame, or what is first in it. -/
  | first
  /-- The end of the innermost frame, or a comma and what is next in it. -/
  | more
deriving DecidableEq, Repr

/-- Steps over a value that is neither a list nor an object. -/
def skipScalar (c : Char) (rest : List Char) : Except Error (List Char) :=
  if c = '"' then skipString rest
  else if c = 'n' then readWord ['u', 'l', 'l'] rest
  else if c = 't' then readWord ['r', 'u', 'e'] rest
  else if c = 'f' then readWord ['a', 'l', 's', 'e'] rest
  else if c = '-' then skipNumber rest
  else if c.isDigit then skipNumber (c :: rest)
  else .error .expectedValue

/-- Steps over the colon between a key and its value. -/
def readColon (s : List Char) : Except Error (List Char) :=
  match skipBlanks s with
  | [] => .error .endInObject
  | ':' :: rest => .ok rest
  | _ => .error .expectedColon

/-- Steps over a key and the colon after it. -/
def skipKey (s : List Char) : Except Error (List Char) :=
  match skipBlanks s with
  | [] => .error .endInObject
  | '"' :: rest =>
    match skipString rest with
    | .ok rest => readColon rest
    | .error e => .error e
  | _ => .error .keyNotString

theorem skipScalar_length {c : Char} {rest more : List Char} (h : skipScalar c rest = .ok more) :
    more.length ≤ rest.length := by
  unfold skipScalar at h
  split at h
  · exact Nat.le_of_lt (skipString_length h)
  split at h
  · exact readWord_length h
  split at h
  · exact readWord_length h
  split at h
  · exact readWord_length h
  split at h
  · exact Nat.le_of_lt (skipNumber_length h)
  split at h
  · exact Nat.le_of_lt_succ (skipNumber_length h)
  · cases h

theorem readColon_length {s rest : List Char} (h : readColon s = .ok rest) :
    rest.length < s.length := by
  unfold readColon at h
  have hs := length_skipBlanks_le s
  split at h
  · cases h
  · rename_i heq
    cases h
    rw [heq] at hs
    exact hs
  · cases h

theorem skipKey_length {s rest : List Char} (h : skipKey s = .ok rest) :
    rest.length < s.length := by
  unfold skipKey at h
  have hs := length_skipBlanks_le s
  split at h
  · cases h
  · rename_i heq
    rw [heq] at hs
    split at h
    · have h₁ := skipString_length ‹_›
      have h₂ := readColon_length h
      simp only [List.length_cons] at hs
      omega
    · cases h
  · cases h

/-- How a list or an object ends. -/
def Frame.closing : Frame → Char
  | list => ']'
  | object => '}'

/-- The complaint when a frame has no end. -/
def Frame.unfinished : Frame → Error
  | list => .endInList
  | object => .endInObject

/-- The complaint when something else than a comma or the end follows a value. -/
def Frame.expectedEnd : Frame → Error
  | list => .expectedListEnd
  | object => .expectedObjectEnd

/-- Steps over what stands before a value in a frame. -/
def Frame.lead : Frame → List Char → Except Error (List Char)
  | list, s => .ok s
  | object, s => skipKey s

theorem Frame.lead_length {f : Frame} {s rest : List Char} (h : f.lead s = .ok rest) :
    rest.length ≤ s.length := by
  cases f with
  | list => cases h; exact Nat.le_refl _
  | object => exact Nat.le_of_lt (skipKey_length h)

/-- Steps over a value, or over the rest of one within the frames on the stack. -/
def skipFrom (stack : List Frame) (expect : Expect) (s : List Char) : Except Error (List Char) :=
  match expect, stack with
  | .value, stack =>
    match _h : skipBlanks s with
    | [] => .error .endInValue
    | '[' :: rest => skipFrom (.list :: stack) .first rest
    | '{' :: rest => skipFrom (.object :: stack) .first rest
    | c :: rest =>
      match h' : skipScalar c rest with
      | .ok more =>
        have := skipScalar_length h'
        skipFrom stack .more more
      | .error e => .error e
  | _, [] => .ok s
  | .first, frame :: stack =>
    match _h : skipBlanks s with
    | [] => .error frame.unfinished
    | c :: rest =>
      if c = frame.closing then skipFrom stack .more rest
      else
        match h' : frame.lead (c :: rest) with
        | .ok more =>
          have := frame.lead_length h'
          skipFrom (frame :: stack) .value more
        | .error e => .error e
  | .more, frame :: stack =>
    match _h : skipBlanks s with
    | [] => .error frame.unfinished
    | c :: rest =>
      if c = frame.closing then skipFrom stack .more rest
      else if c = ',' then
        match h' : frame.lead rest with
        | .ok more =>
          have := frame.lead_length h'
          skipFrom (frame :: stack) .value more
        | .error e => .error e
      else .error frame.expectedEnd
termination_by 2 * s.length + if expect = .value then 0 else 1
decreasing_by
  all_goals
    have hlt := length_lt_of_skipBlanks ‹_›
    try simp only [List.length_cons] at this
    simp only [if_true, if_false]
    omega

theorem skipFrom_length {stack : List Frame} {expect : Expect} {s rest : List Char}
    (h : skipFrom stack expect s = .ok rest) : rest.length ≤ s.length := by
  fun_induction skipFrom stack expect s with
  | case1 => cases h
  | case2 s _ t heq ih =>
    exact Nat.le_of_lt (Nat.lt_of_le_of_lt (ih h) (length_lt_of_skipBlanks heq))
  | case3 s _ t heq ih =>
    exact Nat.le_of_lt (Nat.lt_of_le_of_lt (ih h) (length_lt_of_skipBlanks heq))
  | case4 s _ c t _ _ heq more hmore hle ih =>
    have := length_lt_of_skipBlanks heq
    have := ih h
    omega
  | case5 => cases h
  | case6 => cases h; exact Nat.le_refl _
  | case7 => cases h
  | case8 s frame stack t heq ih =>
    exact Nat.le_of_lt (Nat.lt_of_le_of_lt (ih h) (length_lt_of_skipBlanks heq))
  | case9 s frame stack c t heq _ more hmore hle ih =>
    have := length_lt_of_skipBlanks heq
    have := ih h
    simp only [List.length_cons] at hle
    omega
  | case10 => cases h
  | case11 => cases h
  | case12 s frame stack t heq ih =>
    exact Nat.le_of_lt (Nat.lt_of_le_of_lt (ih h) (length_lt_of_skipBlanks heq))
  | case13 s frame stack t more hmore hle heq _ ih =>
    have := length_lt_of_skipBlanks heq
    have := ih h
    omega
  | case14 => cases h
  | case15 => cases h

/-- Steps over a value. -/
def skip (s : List Char) : Except Error (List Char) :=
  skipFrom [] .value s

end Payout.Json
