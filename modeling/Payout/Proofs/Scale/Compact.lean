import Mathlib.Data.List.Forall2
import Mathlib.Tactic.SplitIfs
import Payout.Proofs.Bytes
import Payout.Scale.Compact

/-!
# Reading compact numbers back

A compact number is read back from the front of any bytes that start with it, in all four of its forms, as
long as the number fits the 67 bytes that the longest form has. No other form of it is read. The same holds of
byte strings after their compact length.
-/
namespace Payout

namespace Scale
namespace Compact

theorem lt_bound_byteCount (n : Nat) : n < Bytes.bound (byteCount n) := by
  induction n using byteCount.induct with
  | case1 => simp [byteCount, Bytes.bound]
  | case2 n hn ih =>
    rw [byteCount, if_neg hn]
    simp only [Bytes.bound]
    omega

/-- No fewer bytes hold the number. -/
theorem byteCount_le_iff {n count : Nat} : byteCount n ≤ count ↔ n < Bytes.bound count := by
  constructor
  · intro h
    exact Nat.lt_of_lt_of_le (lt_bound_byteCount n) (Bytes.bound_le h)
  · intro h
    induction count generalizing n with
    | zero =>
      have hn : n = 0 := Nat.lt_one_iff.mp h
      simp [hn, byteCount]
    | succ count ih =>
      rw [byteCount]
      split
      · omega
      · have hdiv : n / 256 < Bytes.bound count := Nat.div_lt_of_lt_mul h
        have hrest := ih hdiv
        omega

theorem toNat_toUInt8_of_lt {n : Nat} (h : n < 256) : n.toUInt8.toNat = n := by
  simp [Nat.mod_eq_of_lt h]

private theorem decode_one {n : Nat} (h : n < 64) (rest : Bytes) :
    decode (Bytes.ofNat 1 (4 * n) ++ rest) = some (n, rest) := by
  have hb : (4 * n).toUInt8.toNat = 4 * n := toNat_toUInt8_of_lt (by omega)
  have hform : 4 * n % 4 = 0 := by omega
  have hn : 4 * n / 4 = n := by omega
  simp only [Bytes.ofNat, List.cons_append, List.nil_append, decode, hb, hform, hn]

private theorem decode_two {n : Nat} (hlow : 64 ≤ n) (h : n < 16384) (rest : Bytes) :
    decode (Bytes.ofNat 2 (4 * n + 1) ++ rest) = some (n, rest) := by
  have hall : Bytes.toNat (Bytes.ofNat 2 (4 * n + 1)) = 4 * n + 1 :=
    Bytes.toNat_ofNat (by simp only [Bytes.bound]; omega)
  have hform : (4 * n + 1).toUInt8.toNat % 4 = 1 := by simp
  have hn : (4 * n + 1) / 4 = n := by omega
  have hsplit := Bytes.split?_eq_some rest (Bytes.length_ofNat 1 ((4 * n + 1) / 256))
  rw [Bytes.ofNat] at hall ⊢
  simp only [List.cons_append, decode, hform, hsplit, Option.bind_eq_bind, Option.bind_some, hall, hn,
    atLeast, if_pos hlow]

private theorem decode_four {n : Nat} (hlow : 16384 ≤ n) (h : n < 1073741824) (rest : Bytes) :
    decode (Bytes.ofNat 4 (4 * n + 2) ++ rest) = some (n, rest) := by
  have hall : Bytes.toNat (Bytes.ofNat 4 (4 * n + 2)) = 4 * n + 2 :=
    Bytes.toNat_ofNat (by simp only [Bytes.bound]; omega)
  have hform : (4 * n + 2).toUInt8.toNat % 4 = 2 := by simp
  have hn : (4 * n + 2) / 4 = n := by omega
  have hsplit := Bytes.split?_eq_some rest (Bytes.length_ofNat 3 ((4 * n + 2) / 256))
  rw [Bytes.ofNat] at hall ⊢
  simp only [List.cons_append, decode, hform, hsplit, Option.bind_eq_bind, Option.bind_some, hall, hn,
    atLeast, if_pos hlow]

private theorem decode_many {n : Nat} (hlow : 1073741824 ≤ n) (h : n < Bytes.bound 67)
    (rest : Bytes) :
    decode ((4 * (byteCount n - 4) + 3).toUInt8 :: (Bytes.ofNat (byteCount n) n ++ rest)) =
      some (n, rest) := by
  have hmost : byteCount n ≤ 67 := byteCount_le_iff.mpr h
  have hleast : 4 ≤ byteCount n := by
    have hthree : ¬ byteCount n ≤ 3 := by
      rw [byteCount_le_iff]
      simp only [Bytes.bound]
      omega
    omega
  have hneeds : Bytes.bound (byteCount n - 1) ≤ n := by
    have hfewer : ¬ byteCount n ≤ byteCount n - 1 := by omega
    rw [byteCount_le_iff] at hfewer
    omega
  have hb : (4 * (byteCount n - 4) + 3).toUInt8.toNat = 4 * (byteCount n - 4) + 3 :=
    toNat_toUInt8_of_lt (by omega)
  have hform : (4 * (byteCount n - 4) + 3) % 4 = 3 := by omega
  have hcount : (4 * (byteCount n - 4) + 3) / 4 + 4 = byteCount n := by omega
  have hcount' : (4 * (byteCount n - 4) + 3) / 4 + 3 = byteCount n - 1 := by omega
  have hsplit := Bytes.split?_eq_some rest (Bytes.length_ofNat (byteCount n) n)
  have hall := Bytes.toNat_ofNat (lt_bound_byteCount n)
  have hmax : max 1073741824 (Bytes.bound (byteCount n - 1)) ≤ n := Nat.max_le.mpr ⟨hlow, hneeds⟩
  simp only [decode, hb, hform, hcount, hcount', hsplit, Option.bind_eq_bind, Option.bind_some, hall,
    atLeast, if_pos hmax]

/-- A compact number is read back from the front of any bytes that start with it. -/
theorem decode_encode {n : Nat} (h : n < Bytes.bound 67) (rest : Bytes) :
    decode (encode n ++ rest) = some (n, rest) := by
  unfold encode
  split_ifs with h1 h2 h3
  · exact decode_one h1 rest
  · exact decode_two (by omega) h2 rest
  · exact decode_four (by omega) h3 rest
  · exact decode_many (by omega) h rest

theorem decodeBelow_eq_some_iff {n bound : Nat} {bytes rest : Bytes} :
    decodeBelow bound bytes = some (n, rest) ↔ decode bytes = some (n, rest) ∧ n < bound := by
  unfold decodeBelow
  cases decode bytes with
  | none => simp
  | some read =>
    obtain ⟨m, after⟩ := read
    simp only [Option.ite_none_right_eq_some, Option.some.injEq, Prod.mk.injEq]
    constructor
    · intro h
      obtain ⟨hlt, rfl, rfl⟩ := h
      exact ⟨⟨rfl, rfl⟩, hlt⟩
    · intro h
      obtain ⟨⟨rfl, rfl⟩, hlt⟩ := h
      exact ⟨hlt, rfl, rfl⟩

theorem decodeBelow_encode {n bound : Nat} (h : n < bound) (hb : bound ≤ Bytes.bound 67)
    (rest : Bytes) : decodeBelow bound (encode n ++ rest) = some (n, rest) :=
  decodeBelow_eq_some_iff.mpr ⟨decode_encode (Nat.lt_of_lt_of_le h hb) rest, h⟩

/-- A number in the shortest of the four forms that have room for it. -/
inductive Shortest : Nat → Bytes → Prop
  | one {n : Nat} (h : n < 64) : Shortest n (Bytes.ofNat 1 (4 * n))
  | two {n : Nat} (hlow : 64 ≤ n) (h : n < 16384) : Shortest n (Bytes.ofNat 2 (4 * n + 1))
  | four {n : Nat} (hlow : 16384 ≤ n) (h : n < 1073741824) : Shortest n (Bytes.ofNat 4 (4 * n + 2))
  | many {n more : Nat} (hlow : 1073741824 ≤ n) (hleast : Bytes.bound (more + 3) ≤ n)
      (h : n < Bytes.bound (more + 4)) :
    Shortest n ((4 * more + 3).toUInt8 :: Bytes.ofNat (more + 4) n)

/-- Numbers are written in their shortest form. -/
theorem Shortest.eq_encode {n : Nat} {front : Bytes} (h : Shortest n front) : front = encode n := by
  cases h with
  | one h => rw [encode, if_pos h]
  | two hlow h => rw [encode, if_neg (Nat.not_lt.mpr hlow), if_pos h]
  | four hlow h =>
    have htwo : ¬ n < 64 := by omega
    rw [encode, if_neg htwo, if_neg (Nat.not_lt.mpr hlow), if_pos h]
  | many hlow hleast h =>
    rename_i more
    have hmost : byteCount n ≤ more + 4 := byteCount_le_iff.mpr h
    have hfewer : ¬ byteCount n ≤ more + 3 := by
      rw [byteCount_le_iff]
      exact Nat.not_lt.mpr hleast
    have hcount : byteCount n = more + 4 := by omega
    have htwo : ¬ n < 64 := by omega
    have hfour : ¬ n < 16384 := by omega
    rw [encode, if_neg htwo, if_neg hfour, if_neg (Nat.not_lt.mpr hlow), hcount]
    rfl

/-- What is read of the bytes after the first, of which there have to be enough. -/
theorem of_split?_atLeast (number : Bytes → Nat) {count least n : Nat} {bytes rest : Bytes}
    (h : (Bytes.split? count bytes >>= fun r => atLeast least (number r.1) r.2) = some (n, rest)) :
    ∃ more, more.length = count ∧ bytes = more ++ rest ∧ least ≤ n ∧ number more = n := by
  obtain ⟨⟨more, after⟩, hsplit, hread⟩ := Option.bind_eq_some_iff.mp h
  obtain ⟨hlength, rfl⟩ := Bytes.split?_eq_some_iff.mp hsplit
  unfold atLeast at hread
  split at hread
  · rename_i hleast
    obtain ⟨rfl, rfl⟩ := Prod.mk.inj (Option.some.inj hread)
    exact ⟨more, hlength, rfl, hleast, rfl⟩
  · cases hread

/-- The bytes of a form that starts with a byte are those of the number that they make up. -/
theorem ofNat_of_toNat {b : UInt8} {more : Bytes} {length form n : Nat} (hlength : more.length = length)
    (hform : b.toNat % 4 = form) (hn : Bytes.toNat (b :: more) / 4 = n) :
    Bytes.ofNat (length + 1) (4 * n + form) = b :: more ∧ 4 * n + form < Bytes.bound (length + 1) := by
  have hmod : Bytes.toNat (b :: more) % 4 = form := by
    simp only [Bytes.toNat]
    omega
  have hnum : Bytes.toNat (b :: more) = 4 * n + form := by omega
  have hall := Bytes.ofNat_toNat (b :: more)
  have hlt := Bytes.toNat_lt (b :: more)
  rw [List.length_cons, hlength, hnum] at hall hlt
  exact ⟨hall, hlt⟩

/-- Nothing but shortest forms is read. -/
theorem shortest_of_decode {bytes rest : Bytes} {n : Nat} (h : decode bytes = some (n, rest)) :
    ∃ front, Shortest n front ∧ bytes = front ++ rest := by
  cases bytes with
  | nil => cases h
  | cons b tail =>
    have hb := b.toNat_lt
    simp only [decode] at h
    split at h
    · rename_i hform
      obtain ⟨rfl, rfl⟩ := Prod.mk.inj (Option.some.inj h)
      have hone : Bytes.toNat [b] / 4 = b.toNat / 4 := by simp [Bytes.toNat]
      obtain ⟨hbytes, hlt⟩ := ofNat_of_toNat List.length_nil hform hone
      have hn : b.toNat / 4 < 64 := by omega
      exact ⟨[b], hbytes ▸ .one hn, rfl⟩
    · rename_i hform
      obtain ⟨more, hlength, rfl, hlow, hn⟩ :=
        of_split?_atLeast (fun more => Bytes.toNat (b :: more) / 4) h
      obtain ⟨hbytes, hlt⟩ := ofNat_of_toNat hlength hform hn
      simp only [Bytes.bound] at hlt
      exact ⟨b :: more, hbytes ▸ .two hlow (by omega), rfl⟩
    · rename_i hform
      obtain ⟨more, hlength, rfl, hlow, hn⟩ :=
        of_split?_atLeast (fun more => Bytes.toNat (b :: more) / 4) h
      obtain ⟨hbytes, hlt⟩ := ofNat_of_toNat hlength hform hn
      simp only [Bytes.bound] at hlt
      exact ⟨b :: more, hbytes ▸ .four hlow (by omega), rfl⟩
    · rename_i hzero hone htwo
      obtain ⟨number, hlength, rfl, hleast, rfl⟩ := of_split?_atLeast Bytes.toNat h
      obtain ⟨hlow, hleast⟩ := Nat.max_le.mp hleast
      have hthree : b.toNat % 4 = 3 := by grind
      have hform : (4 * (b.toNat / 4) + 3).toUInt8 = b := by
        apply UInt8.toNat_inj.mp
        rw [toNat_toUInt8_of_lt (by omega)]
        omega
      have hlt := Bytes.toNat_lt number
      have hbytes := Bytes.ofNat_toNat number
      rw [hlength] at hlt hbytes
      have hmany := Shortest.many hlow hleast hlt
      rw [hform, hbytes] at hmany
      exact ⟨b :: number, hmany, rfl⟩

end Compact

/-- A byte string is read back after its compact length. -/
theorem decodeBytes_encodeBytes {bytes : Bytes} (h : bytes.length < Bytes.bound 4) (rest : Bytes) :
    decodeBytes (encodeBytes bytes ++ rest) = some (bytes, rest) := by
  have hlength := Compact.decodeBelow_encode h (Bytes.bound_le (by decide)) (bytes ++ rest)
  simp only [encodeBytes, List.append_assoc, decodeBytes, hlength, Bytes.split?_append]

/-- The bytes are a byte string after its length, which is below `2^32` and in its shortest form. -/
def IsByteVector (body bytes : Bytes) : Prop :=
  ∃ length, Compact.Shortest body.length length ∧ body.length < Bytes.bound 4 ∧ bytes = length ++ body

theorem IsByteVector.eq_encodeBytes {body bytes : Bytes} (h : IsByteVector body bytes) :
    bytes = encodeBytes body := by
  obtain ⟨length, hlength, -, rfl⟩ := h
  rw [hlength.eq_encode, encodeBytes]

/-- Byte strings are read exactly from their only form. -/
theorem decodeBytes_eq_some_iff {bytes body rest : Bytes} :
    decodeBytes bytes = some (body, rest) ↔ ∃ front, IsByteVector body front ∧ bytes = front ++ rest := by
  constructor
  · intro h
    unfold decodeBytes at h
    split at h
    · rename_i length after hbelow
      obtain ⟨hdecode, hlt⟩ := Compact.decodeBelow_eq_some_iff.mp hbelow
      obtain ⟨front, hfront, rfl⟩ := Compact.shortest_of_decode hdecode
      obtain ⟨rfl, rfl⟩ := Bytes.split?_eq_some_iff.mp h
      exact ⟨front ++ body, ⟨front, hfront, hlt, rfl⟩, (List.append_assoc _ _ _).symm⟩
    · cases h
  · intro h
    obtain ⟨front, hfront, rfl⟩ := h
    obtain ⟨-, -, hlength, -⟩ := id hfront
    rw [hfront.eq_encodeBytes, decodeBytes_encodeBytes hlength]

theorem isByteVector_encodeBytes {body : Bytes} (h : body.length < Bytes.bound 4) :
    IsByteVector body (encodeBytes body) := by
  have hread := decodeBytes_encodeBytes h []
  obtain ⟨front, hfront, heq⟩ := decodeBytes_eq_some_iff.mp hread
  rw [List.append_nil, List.append_nil] at heq
  exact heq ▸ hfront

theorem exists_bodies {vectors : List Bytes} (h : ∀ bytes ∈ vectors, ∃ body, IsByteVector body bytes) :
    ∃ bodies, List.Forall₂ IsByteVector bodies vectors := by
  induction vectors with
  | nil => exact ⟨[], .nil⟩
  | cons bytes rest ih =>
    obtain ⟨⟨body, hbody⟩, hrest⟩ := List.forall_mem_cons.mp h
    obtain ⟨bodies, hbodies⟩ := ih hrest
    exact ⟨body :: bodies, .cons hbody hbodies⟩

end Scale
end Payout
