import Mathlib.Data.List.GetD
import Mathlib.Data.Nat.Digits.Lemmas
import Payout.Address.Base58

/-!
# Base 58 loses nothing

Byte strings and the texts made of base 58 digits stand for each other one to one. Digits split into leading
zeros and digits that do not start with a zero; a change of base keeps the former, and the latter are the
only such digits of their value.
-/
namespace Payout.Address.Base58

section Digits

theorem digitsLow_eq_digits {base : Nat} (hb : 1 < base) (n : Nat) :
    digitsLow base n = Nat.digits base n := by
  induction n using Nat.strongRecOn with
  | ind n ih =>
    rw [digitsLow]
    split
    · rename_i h
      have hn : n = 0 := by omega
      rw [hn, Nat.digits_zero]
    · rename_i h
      have hpos : 0 < n := by omega
      have hdiv : n / base < n := Nat.div_lt_self hpos hb
      rw [Nat.digits_def' hb hpos, ih _ hdiv]

theorem valueLow_eq_ofDigits (base : Nat) (digits : List Nat) :
    valueLow base digits = Nat.ofDigits base digits := by
  induction digits with
  | nil => rfl
  | cons d rest ih => rw [valueLow, Nat.ofDigits_cons, ih]

theorem exists_leading_zeros (digits : List Nat) :
    ∃ zeros rest, digits = List.replicate zeros 0 ++ rest ∧ rest.head? ≠ some 0 := by
  induction digits with
  | nil => exact ⟨0, [], rfl, by simp⟩
  | cons d digits ih =>
    by_cases hd : d = 0
    · obtain ⟨zeros, rest, rfl, hrest⟩ := ih
      exact ⟨zeros + 1, rest, by rw [hd, List.replicate_succ, List.cons_append], hrest⟩
    · exact ⟨0, d :: digits, rfl, by simpa using hd⟩

theorem head?_reverse_digits (base n : Nat) : (Nat.digits base n).reverse.head? ≠ some 0 := by
  rw [List.head?_reverse]
  by_cases hn : n = 0
  · simp [hn]
  · have hne : Nat.digits base n ≠ [] := Nat.digits_ne_nil_iff_ne_zero.mpr hn
    rw [List.getLast?_eq_some_getLast hne]
    simpa using Nat.getLast_digit_ne_zero base hn

theorem changeBase_append {source target zeros : Nat} {digits : List Nat} (ht : 1 < target)
    (h : digits.head? ≠ some 0) :
    changeBase source target (List.replicate zeros 0 ++ digits) =
      List.replicate zeros 0 ++ (Nat.digits target (Nat.ofDigits source digits.reverse)).reverse := by
  have hzeros : (List.replicate zeros 0 ++ digits).takeWhile (· = 0) = List.replicate zeros 0 := by
    have hfront : ∀ d ∈ List.replicate zeros 0, (decide (d = 0)) = true := by simp
    rw [List.takeWhile_append_of_pos hfront]
    cases digits with
    | nil => simp
    | cons d rest =>
      have hd : d ≠ 0 := by simpa using h
      simp [hd]
  rw [changeBase, hzeros, digitsLow_eq_digits ht, valueLow_eq_ofDigits, List.reverse_append,
    List.reverse_replicate, Nat.ofDigits_append_replicate_zero]

theorem lt_of_mem_changeBase {source target d : Nat} {digits : List Nat} (ht : 1 < target)
    (h : d ∈ changeBase source target digits) : d < target := by
  obtain ⟨zeros, rest, rfl, hrest⟩ := exists_leading_zeros digits
  rw [changeBase_append ht hrest, List.mem_append, List.mem_reverse] at h
  rcases h with h | h
  · rw [List.eq_of_mem_replicate h]
    omega
  · exact Nat.digits_lt_base ht h

/-- Changing the base of digits and changing it back gives the same digits. -/
theorem changeBase_changeBase {source target : Nat} {digits : List Nat} (hs : 1 < source) (ht : 1 < target)
    (h : ∀ d ∈ digits, d < source) : changeBase target source (changeBase source target digits) = digits := by
  obtain ⟨zeros, rest, rfl, hrest⟩ := exists_leading_zeros digits
  have hbelow : ∀ d ∈ rest.reverse, d < source := by
    intro d hd
    exact h d (List.mem_append_right _ (List.mem_reverse.mp hd))
  -- Without a zero at the front, the digits are the only ones of their value.
  have hlast : ∀ hne : rest.reverse ≠ [], rest.reverse.getLast hne ≠ 0 := by
    intro hne hzero
    apply hrest
    rw [← List.reverse_reverse rest, List.head?_reverse, List.getLast?_eq_some_getLast hne, hzero]
  rw [changeBase_append ht hrest, changeBase_append hs (head?_reverse_digits _ _), List.reverse_reverse,
    Nat.ofDigits_digits, Nat.digits_ofDigits source hs _ hbelow hlast, List.reverse_reverse]

end Digits

section Text

theorem digit?_eq_some_iff {c : Char} {d : Nat} : digit? c = some d ↔ d < 58 ∧ alphabet.getD d '1' = c := by
  have hread : ∀ d < 58, digit? (alphabet.getD d '1') = some d := by decide
  constructor
  · intro h
    obtain ⟨hlt, hget, -⟩ := List.idxOf?_eq_some_iff.mp h
    exact ⟨hlt, by rw [List.getD_eq_getElem _ _ hlt, hget]⟩
  · intro h
    obtain ⟨hlt, rfl⟩ := h
    exact hread d hlt

/-- The characters of a text are read as the digits that they stand for. -/
theorem mapM_digit?_eq_some_iff {text : List Char} {digits : List Nat} :
    text.mapM digit? = some digits ↔ (∀ d ∈ digits, d < 58) ∧ digits.map (alphabet.getD · '1') = text := by
  induction text generalizing digits with
  | nil => cases digits <;> simp
  | cons c text ih =>
    simp only [List.mapM_cons, Option.bind_eq_bind, Option.bind_eq_some_iff, Option.pure_def, Option.some.injEq]
    constructor
    · intro h
      obtain ⟨d, hd, rest, hrest, rfl⟩ := h
      obtain ⟨hlt, hc⟩ := digit?_eq_some_iff.mp hd
      obtain ⟨hbelow, htext⟩ := ih.mp hrest
      exact ⟨List.forall_mem_cons.mpr ⟨hlt, hbelow⟩, by rw [List.map_cons, hc, htext]⟩
    · intro h
      obtain ⟨hbelow, hmap⟩ := h
      cases digits with
      | nil => cases hmap
      | cons d rest =>
        obtain ⟨hlt, hbelow⟩ := List.forall_mem_cons.mp hbelow
        obtain ⟨hc, htext⟩ := List.cons.inj hmap
        exact ⟨d, digit?_eq_some_iff.mpr ⟨hlt, hc⟩, rest, ih.mpr ⟨hbelow, htext⟩, rfl⟩

theorem map_toNat_toUInt8 {digits : List Nat} (h : ∀ d ∈ digits, d < 256) :
    (digits.map Nat.toUInt8).map UInt8.toNat = digits := by
  rw [List.map_map, List.map_congr_left (g := id), List.map_id]
  intro d hd
  simpa using Nat.mod_eq_of_lt (h d hd)

theorem map_toUInt8_toNat (bytes : Bytes) : (bytes.map UInt8.toNat).map Nat.toUInt8 = bytes := by
  simp [Function.comp_def]

/-- Bytes are read back from their text. -/
theorem decode_encode (bytes : Bytes) : decode (encode bytes) = some bytes := by
  have hbytes : ∀ d ∈ bytes.map UInt8.toNat, d < 256 := by
    intro d hd
    obtain ⟨b, -, rfl⟩ := List.mem_map.mp hd
    exact b.toNat_lt
  have hread : (encode bytes).mapM digit? = some (changeBase 256 58 (bytes.map UInt8.toNat)) := by
    refine mapM_digit?_eq_some_iff.mpr ⟨fun d hd => ?_, rfl⟩
    exact lt_of_mem_changeBase (by decide) hd
  rw [decode, hread, Option.map_some, changeBase_changeBase (by decide) (by decide) hbytes,
    map_toUInt8_toNat]

theorem encode_of_decode {text : List Char} {bytes : Bytes} (h : decode text = some bytes) :
    encode bytes = text := by
  obtain ⟨digits, hdigits, rfl⟩ := Option.map_eq_some_iff.mp h
  obtain ⟨hbelow, htext⟩ := mapM_digit?_eq_some_iff.mp hdigits
  have hbytes : ∀ d ∈ changeBase 58 256 digits, d < 256 := fun d hd => lt_of_mem_changeBase (by decide) hd
  rw [encode, map_toNat_toUInt8 hbytes, changeBase_changeBase (by decide) (by decide) hbelow, htext]

theorem decode_eq_some_iff {text : List Char} {bytes : Bytes} :
    decode text = some bytes ↔ text = encode bytes := by
  constructor
  · intro h
    exact (encode_of_decode h).symm
  · intro h
    rw [h, decode_encode]

theorem mem_alphabet_of_mem_encode {bytes : Bytes} {c : Char} (h : c ∈ encode bytes) : c ∈ alphabet := by
  obtain ⟨d, hd, rfl⟩ := List.mem_map.mp h
  have hlt : d < alphabet.length := lt_of_mem_changeBase (by decide) hd
  rw [List.getD_eq_getElem _ _ hlt]
  exact List.getElem_mem hlt

end Text
end Payout.Address.Base58
