import Payout.Hex

/-!
# Bounds and texts of byte strings

How many numbers fit so many bytes, the front of a byte string, bytes that are those of their number, texts that
are read back from their UTF-8 bytes, and hexadecimal texts that determine their bytes.
-/
namespace Payout.Bytes

theorem bound_pos (length : Nat) : 0 < bound length := by
  induction length with
  | zero => decide
  | succ length ih => simp only [bound]; omega

theorem bound_le {short long : Nat} (h : short ≤ long) : bound short ≤ bound long := by
  induction h with
  | refl => exact Nat.le_refl _
  | step _ ih => simp only [bound]; omega

theorem split?_eq_some {count : Nat} {bytes : Bytes} (rest : Bytes) (h : bytes.length = count) :
    split? count (bytes ++ rest) = some (bytes, rest) := by
  rw [← h, split?_append]

theorem split?_eq_some_iff {count : Nat} {bytes front rest : Bytes} :
    split? count bytes = some (front, rest) ↔ front.length = count ∧ bytes = front ++ rest := by
  constructor
  · intro h
    unfold split? at h
    split at h
    · obtain ⟨rfl, rfl⟩ := Prod.mk.inj (Option.some.inj h)
      exact ⟨List.length_take_of_le ‹_›, (List.take_append_drop count bytes).symm⟩
    · cases h
  · intro h
    obtain ⟨rfl, rfl⟩ := h
    exact split?_append front rest

/-- Bytes are those of their number. -/
theorem ofNat_toNat (bytes : Bytes) : ofNat bytes.length (toNat bytes) = bytes := by
  induction bytes with
  | nil => rfl
  | cons b rest ih =>
    have hb := b.toNat_lt
    have hfirst : (b.toNat + 256 * toNat rest).toUInt8 = b := by
      apply UInt8.toNat_inj.mp
      simp only [Nat.toUInt8_eq, UInt8.toNat_ofNat']
      omega
    have hrest : (b.toNat + 256 * toNat rest) / 256 = toNat rest := by omega
    rw [List.length_cons, toNat, ofNat, hfirst, hrest, ih]

private theorem byteArray_loop (bytes : ByteArray) (i : Nat) (read : List UInt8) :
    ByteArray.toList.loop bytes i read = read.reverse ++ bytes.data.toList.drop i := by
  induction i, read using ByteArray.toList.loop.induct bytes with
  | case1 i read hi ih =>
    have hlength : i < bytes.data.toList.length := hi
    rw [ByteArray.toList.loop, if_pos hi, ih, List.drop_eq_getElem_cons hlength]
    simp [ByteArray.get!, getElem!_pos bytes.data i hi]
  | case2 i read hi =>
    have hlength : bytes.data.toList.length ≤ i := Nat.le_of_not_lt hi
    rw [ByteArray.toList.loop, if_neg hi, List.drop_eq_nil_of_le hlength, List.append_nil]

theorem ofString_ofList (cs : List Char) : ofString (String.ofList cs) = cs.flatMap String.utf8EncodeChar := by
  rw [ofString, ByteArray.toList, byteArray_loop, String.toUTF8_eq_toByteArray, String.toByteArray_ofList]
  simp [List.utf8Encode]

/-- A text is read back from its bytes. -/
theorem toString?_ofString (text : String) : toString? (ofString text) = some text := by
  have h : (⟨(ofString text).toArray⟩ : ByteArray) = text.toUTF8 := by
    apply ByteArray.ext
    rw [ofString, ByteArray.toList, byteArray_loop]
    simp only [List.reverse_nil, List.nil_append, List.drop_zero, Array.toArray_toList]
  rw [toString?, h]
  simp only [String.fromUTF8?, String.toUTF8_eq_toByteArray, text.isValidUTF8, dif_pos]
  rfl

theorem fit_of_le {length : Nat} {bytes : Bytes} (h : bytes.length ≤ length) :
    bytes.fit length = bytes ++ List.replicate (length - bytes.length) 0 := by
  rw [fit, List.take_append, List.take_of_length_le h, List.take_replicate, Nat.min_eq_left (Nat.sub_le _ _)]

end Payout.Bytes

namespace Payout

/-- Two digits and more are read one pair at a time. -/
theorem Hex.decode_cons_cons_eq_some_iff {high low : Char} {rest : List Char} {bytes : Bytes} :
    decode (high :: low :: rest) = some bytes ↔
      ∃ x y more, digit? high = some x ∧ digit? low = some y ∧ decode rest = some more ∧
        bytes = (16 * x + y).toUInt8 :: more := by
  simp only [decode, Option.bind_eq_bind, Option.bind_eq_some_iff, Option.pure_def, Option.some.injEq]
  constructor
  · rintro ⟨x, hx, y, hy, more, hmore, rfl⟩
    exact ⟨x, y, more, hx, hy, hmore, rfl⟩
  · rintro ⟨x, y, more, hx, hy, hmore, rfl⟩
    exact ⟨x, hx, y, hy, more, hmore, rfl⟩

theorem Hex.length_of_decode {cs : List Char} {bytes : Bytes} (h : decode cs = some bytes) :
    cs.length = 2 * bytes.length := by
  induction cs using decode.induct generalizing bytes with
  | case1 => cases h; rfl
  | case2 => cases h
  | case3 high low rest ih =>
    obtain ⟨_, _, more, _, _, hmore, rfl⟩ := decode_cons_cons_eq_some_iff.1 h
    simp only [List.length_cons, ih hmore]
    omega

theorem Hex.isSome_of_decode {cs : List Char} {bytes : Bytes} (h : decode cs = some bytes) :
    ∀ c ∈ cs, (digit? c).isSome = true := by
  induction cs using decode.induct generalizing bytes with
  | case1 => simp
  | case2 => cases h
  | case3 high low rest ih =>
    obtain ⟨_, _, _, hx, hy, hmore, _⟩ := decode_cons_cons_eq_some_iff.1 h
    simp only [List.forall_mem_cons, hx, hy, Option.isSome_some, true_and]
    exact ih hmore

theorem Hex.encode_injective {a b : Bytes} (h : encode a = encode b) : a = b := by
  have ha := decode_encode a
  rw [h, decode_encode] at ha
  exact (Option.some.inj ha).symm

/-- Different hashes have different texts. -/
theorem Bytes32.hex_injective {a b : Bytes32} (h : a.hex = b.hex) : a = b := by
  have htext := congrArg String.toList h
  simp only [hex, Hex.text, String.toList_append, String.toList_ofList, List.append_cancel_left_eq] at htext
  exact ext (Hex.encode_injective htext)

end Payout
