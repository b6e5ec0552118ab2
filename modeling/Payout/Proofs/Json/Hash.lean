import Payout.Json.TxInfo
import Payout.Proofs.Json.HexText
import Payout.Proofs.Json.Value

/-!
# How hashes are written

A hash stands in a string as 64 hexadecimal digits, with or without `0x` before them. The 64 may be blanks as
well: these are left out, and the bytes for which no digits are left are zero. Reading a hash takes exactly such
a string.
-/
namespace Payout.Json

/-! ### Hashes -/

/-- 64 characters that hold a hash. Their digits, the blanks left out, are those of bytes, but for one that may be
left over; the hash is these bytes and then zeros. -/
structure Fills (h : Bytes32) (cs : List Char) : Prop where
  length_eq : cs.length = 64
  hexOrBlank : ∀ c ∈ cs, IsHexOrBlank c
  exists_bytes : ∃ front odd bytes, cs.filter (fun c => !isBlank c) = front ++ odd ∧ odd.length ≤ 1 ∧
    Hex.decode front = some bytes ∧ h.toList = bytes ++ List.replicate (32 - bytes.length) 0

/-- The text of a hash. -/
inductive HashText (h : Bytes32) : List Char → Prop
  | bare {cs : List Char} : Fills h cs → HashText h cs
  | marked {cs : List Char} : Fills h cs → HashText h ('0' :: 'x' :: cs)

/-- A string that is the text of a hash, as it may be written. -/
inductive HashValue (h : Bytes32) : List Char → Prop
  | mk {text raw : List Char} : Spelling text raw → HashText h text → HashValue h ('"' :: (raw ++ ['"']))

theorem isBlank_eq_false_of_digit {c : Char} (h : (Hex.digit? c).isSome = true) : isBlank c = false := by
  cases hc : isBlank c with
  | false => rfl
  | true =>
    rw [digit?_eq_none_of_blank hc] at h
    cases h

theorem filterMap_filter_not_blank (cs : List Char) :
    (cs.filter fun c => !isBlank c).filterMap Hex.digit? = cs.filterMap Hex.digit? := by
  rw [List.filterMap_filter]
  refine congrArg (List.filterMap · cs) (funext fun c => ?_)
  cases hc : isBlank c with
  | false => rfl
  | true => simp [digit?_eq_none_of_blank hc]

theorem fills_iff {h : Bytes32} {cs : List Char} :
    Fills h cs ↔ cs.length = 64 ∧ (∀ c ∈ cs, IsHexOrBlank c) ∧
      Bytes32.fit (pairUp (cs.filterMap Hex.digit?)) = h := by
  -- The bytes that the digits make are no more than a hash has.
  have hfit {front odd : List Char} {bytes : Bytes} (hcs : cs.length = 64)
      (hfilter : (cs.filter fun c => !isBlank c) = front ++ odd) (hbytes : Hex.decode front = some bytes) :
      bytes.fit 32 = bytes ++ List.replicate (32 - bytes.length) 0 := by
    have hle := List.length_filter_le (fun c => !isBlank c) cs
    have hfront := Hex.length_of_decode hbytes
    rw [hfilter, List.length_append] at hle
    exact Bytes.fit_of_le (by omega)
  constructor
  · rintro ⟨hlength, hchars, front, odd, bytes, hfilter, hodd, hbytes, hlist⟩
    refine ⟨hlength, hchars, Bytes32.ext ?_⟩
    rw [← filterMap_filter_not_blank, hfilter, pairUp_of_decode hbytes hodd, hlist]
    exact hfit hlength hfilter hbytes
  · rintro ⟨hlength, hchars, rfl⟩
    have hdigits : ∀ c ∈ cs.filter (fun c => !isBlank c), (Hex.digit? c).isSome = true := by
      intro c hc
      obtain ⟨hmem, hblank⟩ := List.mem_filter.1 hc
      exact (hchars c hmem).resolve_left (by simpa using hblank)
    obtain ⟨front, odd, bytes, hfilter, hodd, hbytes⟩ := exists_decode _ hdigits
    refine ⟨hlength, hchars, front, odd, bytes, hfilter, hodd, hbytes, ?_⟩
    rw [← filterMap_filter_not_blank, hfilter, pairUp_of_decode hbytes hodd]
    exact hfit hlength hfilter hbytes

/-- Without blanks a hash is held by its 64 digits. -/
theorem fills_iff_decode {h : Bytes32} {cs : List Char} (hcs : ∀ c ∈ cs, isBlank c = false) :
    Fills h cs ↔ Hex.decode cs = some h.toList := by
  have hfilter : cs.filter (fun c => !isBlank c) = cs := List.filter_eq_self.2 (by simpa using hcs)
  constructor
  · rintro ⟨hlength, _, front, odd, bytes, hsplit, hodd, hbytes, hlist⟩
    rw [hfilter] at hsplit
    have hfront := Hex.length_of_decode hbytes
    rw [hsplit, List.length_append] at hlength
    have hempty : odd = [] := List.length_eq_zero_iff.1 (by omega)
    have hfull : 32 - bytes.length = 0 := by omega
    rw [hfull, List.replicate_zero, List.append_nil] at hlist
    rw [hsplit, hempty, List.append_nil, hlist, hbytes]
  · intro hbytes
    have hlength := Hex.length_of_decode hbytes
    rw [h.length_toList] at hlength
    refine ⟨hlength, fun c hc => .inr (Hex.isSome_of_decode hbytes c hc), cs, [], h.toList, ?_, Nat.zero_le 1,
      hbytes, ?_⟩
    · rw [hfilter, List.append_nil]
    · rw [h.length_toList, Nat.sub_self, List.replicate_zero, List.append_nil]

theorem fills_iff_read (position : Nat) {h : Bytes32} {cs : List Char} :
    Fills h cs ↔ (Bytes.ofString (String.ofList cs)).length = 64 ∧
      ∃ ds, hexDigits position (Bytes.ofString (String.ofList cs)) = .ok ds ∧ Bytes32.fit (pairUp ds) = h := by
  rw [Bytes.ofString_ofList, fills_iff]
  constructor
  · rintro ⟨hlength, hchars, hfit⟩
    exact ⟨(length_flatMap_of_hexOrBlank hchars).trans hlength, _, hexDigits_flatMap.2 ⟨hchars, rfl⟩, hfit⟩
  · rintro ⟨hlength, ds, hds, hfit⟩
    obtain ⟨hchars, rfl⟩ := hexDigits_flatMap.1 hds
    exact ⟨(length_flatMap_of_hexOrBlank hchars).symm.trans hlength, hchars, hfit⟩

theorem Fills.not_marked {h : Bytes32} {cs rest : List Char} (hf : Fills h cs) : cs ≠ '0' :: 'x' :: rest := by
  rintro rfl
  exact absurd (hf.hexOrBlank 'x' (by simp)) (by simp [IsHexOrBlank]; decide)

theorem hashOfText_eq_ok_iff_fills {text : List Char} {h : Bytes32} :
    hashOfText text = .ok h ↔ Fills h (afterMark text).2 := by
  rw [fills_iff_read (afterMark text).1, hashOfText]
  dsimp only
  split
  · simp [*, Outcome.map_eq_ok_iff]
  · simp [*]

theorem hashOfText_eq_ok_iff {text : List Char} {h : Bytes32} : hashOfText text = .ok h ↔ HashText h text := by
  rw [hashOfText_eq_ok_iff_fills]
  constructor
  · intro hfills
    unfold afterMark at hfills
    split at hfills
    · exact .marked hfills
    · exact .bare hfills
  · intro htext
    cases htext with
    | marked hfills => exact hfills
    | bare hfills => rwa [afterMark_of_unmarked fun _ => hfills.not_marked]

/-! ### Reading them -/

theorem HashValue.written {h : Bytes32} {v : List Char} (hv : HashValue h v) : Written .value v := by
  cases hv with
  | mk hraw _ => exact .scalar (.string hraw.quotable)

theorem HashValue.read {h : Bytes32} {b v : List Char} (hv : HashValue h v) (hb : Blank b) (rest : List Char) :
    readHash (b ++ (v ++ rest)) = .ok (h, rest) := by
  cases hv with
  | mk hraw htext =>
    rw [List.cons_append, List.append_assoc, readHash, skipBlanks_append_cons hb rfl]
    simp [hraw.read, hashOfText_eq_ok_iff.2 htext, Except.map]

theorem readHash_sound {s rest : List Char} {h : Bytes32} (hread : readHash s = .ok (h, rest)) :
    ∃ b v, Blank b ∧ HashValue h v ∧ s = b ++ (v ++ rest) := by
  unfold readHash at hread
  split at hread
  · rename_i hs
    obtain ⟨b, hb, rfl⟩ := exists_blank_of_skipBlanks hs
    split at hread
    · rename_i hstring
      obtain ⟨raw, hraw, rfl⟩ := readString_sound hstring
      obtain ⟨_, htext, heq⟩ := Outcome.map_eq_ok_iff.1 hread
      cases heq
      exact ⟨b, _, hb, .mk hraw (hashOfText_eq_ok_iff.1 htext), by simp⟩
    · cases hread
  · cases hread

/-! ### Writing them -/

theorem exists_digit_of_mem_encode {bytes : Bytes} {c : Char} (h : c ∈ Hex.encode bytes) :
    ∃ n < 16, Hex.digit n = c := by
  induction bytes with
  | nil => cases h
  | cons b rest ih =>
    have hb := b.toNat_lt
    simp only [Hex.encode, List.mem_cons] at h
    rcases h with rfl | rfl | h
    · exact ⟨b.toNat / 16, by omega, rfl⟩
    · exact ⟨b.toNat % 16, by omega, rfl⟩
    · exact ih h

theorem mem_of_mem_encode {bytes : Bytes} {c : Char} (h : c ∈ Hex.encode bytes) :
    c ∈ "0123456789abcdef".toList := by
  have hdigit : ∀ n < 16, Hex.digit n ∈ "0123456789abcdef".toList := by decide
  obtain ⟨n, hn, rfl⟩ := exists_digit_of_mem_encode h
  exact hdigit n hn

/-- Digits are neither blanks nor in need of an escape. -/
theorem plain_of_mem_encode {bytes : Bytes} {c : Char} (h : c ∈ Hex.encode bytes) :
    isBlank c = false ∧ c ≠ '"' ∧ c ≠ '\\' ∧ 32 ≤ c.toNat := by
  have hdigit : ∀ n < 16, isBlank (Hex.digit n) = false ∧ Hex.digit n ≠ '"' ∧ Hex.digit n ≠ '\\' ∧
      32 ≤ (Hex.digit n).toNat := by decide
  obtain ⟨n, hn, rfl⟩ := exists_digit_of_mem_encode h
  exact hdigit n hn

theorem hex_toList (h : Bytes32) : h.hex.toList = '0' :: 'x' :: Hex.encode h.toList := by
  simp [Bytes32.hex, Hex.text]

/-- The text of a hash, in quotes. -/
theorem hashValue_hex (h : Bytes32) : HashValue h ('"' :: (h.hex.toList ++ ['"'])) := by
  have hfills := (fills_iff_decode fun c hc => (plain_of_mem_encode hc).1).2 (Hex.decode_encode h.toList)
  refine .mk (spelling_self ?_) (hex_toList h ▸ .marked hfills)
  rw [hex_toList, List.forall_mem_cons, List.forall_mem_cons]
  exact ⟨by decide, by decide, fun c hc => (plain_of_mem_encode hc).2⟩

end Payout.Json
