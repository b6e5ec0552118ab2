import Payout.Json.HexText
import Payout.Proofs.Bytes
import Payout.Proofs.Outcome

/-!
# How bytes are written in strings

The characters that count in a hexadecimal string are the digits, and blanks may stand anywhere. A string of digits
alone, two for each byte, is read as these bytes.
-/
namespace Payout.Json

/-! ### Digits among bytes -/

/-- A character that counts in a hexadecimal string, or is left out. -/
def IsHexOrBlank (c : Char) : Prop :=
  isBlank c = true ∨ (Hex.digit? c).isSome = true

theorem IsHexOrBlank.lt {c : Char} (h : IsHexOrBlank c) : c.toNat < 128 := by
  rcases h with h | h
  · simp only [isBlank, Bool.or_eq_true, decide_eq_true_eq] at h
    rcases h with ((rfl | rfl) | rfl) | rfl <;> decide
  · have hnine : '9'.toNat = 57 := rfl
    have hf : 'f'.toNat = 102 := rfl
    have hF : 'F'.toNat = 70 := rfl
    unfold Hex.digit? at h
    simp only [Char.le_def, UInt32.le_iff_toNat_le, Char.toNat_val] at h
    split at h
    · omega
    split at h
    · omega
    split at h
    · omega
    · cases h

theorem digit?_eq_none_of_blank {c : Char} (h : isBlank c = true) : Hex.digit? c = none := by
  simp only [isBlank, Bool.or_eq_true, decide_eq_true_eq] at h
  rcases h with ((rfl | rfl) | rfl) | rfl <;> decide

theorem toNat_ofNat {n : Nat} (h : n < 256) : (Char.ofNat n).toNat = n := by
  rw [Char.ofNat, dif_pos (.inl (by omega))]
  rfl

theorem utf8EncodeChar_of_lt {c : Char} (h : c.toNat < 128) : String.utf8EncodeChar c = [c.toNat.toUInt8] := by
  have hc : c.val.toNat ≤ 127 := Nat.le_of_lt_succ h
  rw [String.utf8EncodeChar, if_pos hc]
  rfl

theorem utf8EncodeChar_of_le {c : Char} (h : 128 ≤ c.toNat) :
    ∃ b more, String.utf8EncodeChar c = b :: more ∧ 128 ≤ b.toNat := by
  have hc : ¬c.val.toNat ≤ 127 := Nat.not_le_of_lt h
  rw [String.utf8EncodeChar, if_neg hc]
  split
  · refine ⟨_, _, rfl, ?_⟩
    simp only [UInt8.toNat_ofNat']
    omega
  split
  · refine ⟨_, _, rfl, ?_⟩
    simp only [UInt8.toNat_ofNat']
    omega
  · refine ⟨_, _, rfl, ?_⟩
    simp only [UInt8.toNat_ofNat']
    omega

theorem hexDigits_cons {position : Nat} {b : UInt8} {bytes : Bytes} {ds : List Nat} :
    hexDigits position (b :: bytes) = .ok ds ↔ IsHexOrBlank (Char.ofNat b.toNat) ∧
      ∃ more, hexDigits (position + 1) bytes = .ok more ∧ (hexByte? b).toList ++ more = ds := by
  rw [hexDigits, hexByte?, IsHexOrBlank]
  by_cases hblank : isBlank (Char.ofNat b.toNat) = true
  · simp [hblank, digit?_eq_none_of_blank]
  · cases hdigit : Hex.digit? (Char.ofNat b.toNat) with
    | none => simp [hblank]
    | some d => simp [hblank, Outcome.map_eq_ok_iff]

/-- The bytes of a text are read as hexadecimal where each of its characters is a digit or a blank. -/
theorem hexDigits_flatMap {position : Nat} {cs : List Char} {ds : List Nat} :
    hexDigits position (cs.flatMap String.utf8EncodeChar) = .ok ds ↔
      (∀ c ∈ cs, IsHexOrBlank c) ∧ cs.filterMap Hex.digit? = ds := by
  induction cs generalizing position ds with
  | nil => simp [hexDigits]
  | cons c cs ih =>
    rw [List.flatMap_cons, List.forall_mem_cons]
    by_cases hc : c.toNat < 128
    · have hbyte : c.toNat.toUInt8.toNat = c.toNat := by
        simp only [Nat.toUInt8_eq, UInt8.toNat_ofNat']
        omega
      have hsplit : (c :: cs).filterMap Hex.digit? = (Hex.digit? c).toList ++ cs.filterMap Hex.digit? := by
        cases hd : Hex.digit? c <;> simp [hd]
      rw [utf8EncodeChar_of_lt hc, List.singleton_append, hexDigits_cons, hexByte?, hbyte, Char.ofNat_toNat, hsplit]
      simp only [ih, and_assoc, exists_and_left, exists_eq_left']
    · obtain ⟨b, more, hbytes, hb⟩ := utf8EncodeChar_of_le (Nat.le_of_not_lt hc)
      rw [hbytes, List.cons_append, hexDigits_cons]
      constructor
      · rintro ⟨hchar, -⟩
        have hlt := hchar.lt
        rw [toNat_ofNat b.toNat_lt] at hlt
        omega
      · rintro ⟨⟨hchar, -⟩, -⟩
        exact absurd hchar.lt hc

theorem length_flatMap_of_hexOrBlank {cs : List Char} (hcs : ∀ c ∈ cs, IsHexOrBlank c) :
    (cs.flatMap String.utf8EncodeChar).length = cs.length := by
  induction cs with
  | nil => rfl
  | cons c cs ih =>
    rw [List.forall_mem_cons] at hcs
    rw [List.flatMap_cons, utf8EncodeChar_of_lt hcs.1.lt, List.length_append, ih hcs.2, List.length_cons]
    exact Nat.add_comm 1 cs.length

/-! ### Digits in pairs -/

/-- Digits are bytes, but for one that may be left over. -/
theorem exists_decode (cs : List Char) (h : ∀ c ∈ cs, (Hex.digit? c).isSome = true) :
    ∃ front odd bytes, cs = front ++ odd ∧ odd.length ≤ 1 ∧ Hex.decode front = some bytes := by
  induction cs using Hex.decode.induct with
  | case1 => exact ⟨[], [], [], rfl, Nat.zero_le 1, rfl⟩
  | case2 c => exact ⟨[], [c], [], rfl, Nat.le_refl 1, rfl⟩
  | case3 high low rest ih =>
    simp only [List.forall_mem_cons] at h
    obtain ⟨x, hx⟩ := Option.isSome_iff_exists.1 h.1
    obtain ⟨y, hy⟩ := Option.isSome_iff_exists.1 h.2.1
    obtain ⟨front, odd, bytes, rfl, hodd, hbytes⟩ := ih h.2.2
    exact ⟨high :: low :: front, odd, (16 * x + y).toUInt8 :: bytes, rfl, hodd,
      Hex.decode_cons_cons_eq_some_iff.2 ⟨x, y, bytes, hx, hy, hbytes, rfl⟩⟩

theorem pairUp_of_length_le {ds : List Nat} (h : ds.length ≤ 1) : pairUp ds = [] := by
  match ds with
  | [] => rfl
  | [_] => rfl
  | _ :: _ :: _ => simp at h

theorem pairUp_of_decode {front odd : List Char} {bytes : Bytes} (h : Hex.decode front = some bytes)
    (hodd : odd.length ≤ 1) : pairUp ((front ++ odd).filterMap Hex.digit?) = bytes := by
  rw [List.filterMap_append]
  induction front using Hex.decode.induct generalizing bytes with
  | case1 =>
    cases h
    exact pairUp_of_length_le (Nat.le_trans (List.length_filterMap_le _ _) hodd)
  | case2 => cases h
  | case3 high low rest ih =>
    obtain ⟨x, y, more, hx, hy, hmore, rfl⟩ := Hex.decode_cons_cons_eq_some_iff.1 h
    simp [hx, hy, pairUp, ih hmore]

/-! ### Bytes of a string -/

/-- A string holds bytes where each of its characters is a digit or a blank. -/
theorem bytesOfText_eq_ok_iff {text : List Char} {bytes : Bytes} :
    bytesOfText text = .ok bytes ↔ (∀ c ∈ (afterMark text).2, IsHexOrBlank c) ∧
      (pairUp (List.replicate ((afterMark text).2.length % 2) 0 ++ (afterMark text).2.filterMap Hex.digit?)).fit
        (((afterMark text).2.length + 1) / 2) = bytes := by
  simp only [bytesOfText, Outcome.map_eq_ok_iff, Bytes.ofString_ofList, hexDigits_flatMap]
  constructor
  · intro h
    obtain ⟨ds, ⟨hchars, rfl⟩, hbytes⟩ := h
    rw [length_flatMap_of_hexOrBlank hchars] at hbytes
    exact ⟨hchars, hbytes⟩
  · intro h
    obtain ⟨hchars, hbytes⟩ := h
    refine ⟨_, ⟨hchars, rfl⟩, ?_⟩
    rw [length_flatMap_of_hexOrBlank hchars]
    exact hbytes

/-- Five characters hold three bytes. The digits, of which the first is on its own, make two. -/
example : (bytesOfText ['0', 'x', '1', ' ', '2', '\n', '3']).toOption = some [0x01, 0x23, 0x00] := by
  decide +kernel

theorem afterMark_of_unmarked {text : List Char} (h : ∀ rest, text ≠ '0' :: 'x' :: rest) :
    afterMark text = (0, text) := by
  unfold afterMark
  split
  · exact absurd rfl (h _)
  · rfl

/-- Digits alone, two for each byte, are read as the bytes. -/
theorem bytesOfText_of_decode {text : List Char} {bytes : Bytes} (h : Hex.decode (afterMark text).2 = some bytes) :
    bytesOfText text = .ok bytes := by
  have hlength := Hex.length_of_decode h
  have hpairs := pairUp_of_decode h (show ([] : List Char).length ≤ 1 from Nat.zero_le 1)
  rw [List.append_nil] at hpairs
  have heven : 2 * bytes.length % 2 = 0 := by omega
  have hhalf : (2 * bytes.length + 1) / 2 = bytes.length := by omega
  refine bytesOfText_eq_ok_iff.mpr ⟨fun c hc => .inr (Hex.isSome_of_decode h c hc), ?_⟩
  rw [hlength, heven, hhalf, List.replicate_zero, List.nil_append, hpairs, Bytes.fit_of_le (Nat.le_refl _),
    Nat.sub_self, List.replicate_zero, List.append_nil]

end Payout.Json
