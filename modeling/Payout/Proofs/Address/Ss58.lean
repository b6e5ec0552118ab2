import Payout.Address.Ss58
import Payout.Proofs.Address.Base58

/-!
# Addresses and accounts

The texts that are read as addresses are those of prefix, account and checksum, so an address is read as the
account that it was written for, whatever its prefix. An account has one address under each prefix.
-/
namespace Payout

namespace Crypto

theorem length_blake2b512 (message : Bytes) : (blake2b512 message).length = 64 := by
  rw [blake2b512, Blake2b.hash, List.length_take, List.length_flatMap]
  simp

end Crypto

namespace Address.Ss58

/-- The text is an address of the account: some prefix, the account and the checksum of both. -/
def IsAddress (account : AccountId) (text : List Char) : Prop :=
  ∃ network, IsPrefix network ∧ text = encodeWith network account

@[simp] theorem length_checksum (bytes : Bytes) : (checksum bytes).length = 2 := by
  rw [checksum, List.length_take, Crypto.length_blake2b512]
  rfl

/-- The first byte of a prefix tells how long the prefix is. -/
theorem IsPrefix.prefixLength? {network : Bytes} (h : IsPrefix network) (rest : Bytes) :
    ∃ first, (network ++ rest).head? = some first ∧ Ss58.prefixLength? first = some network.length := by
  match network, h with
  | [b], h => exact ⟨b, rfl, if_pos h⟩
  | [b, _], h =>
    obtain ⟨hlow, hhigh⟩ := h
    exact ⟨b, rfl, by rw [Ss58.prefixLength?, if_neg (by omega), if_pos hhigh]; rfl⟩

theorem isPrefix_take {bytes : Bytes} {first : UInt8} {length : Nat} (hfirst : bytes.head? = some first)
    (hlength : prefixLength? first = some length) (hle : length ≤ bytes.length) :
    IsPrefix (bytes.take length) := by
  obtain ⟨rest, rfl⟩ := List.head?_eq_some_iff.mp hfirst
  unfold prefixLength? at hlength
  split at hlength
  · obtain rfl := Option.some.inj hlength
    assumption
  · split at hlength
    · obtain rfl := Option.some.inj hlength
      cases rest with
      | nil => simp at hle
      | cons second rest => exact ⟨by omega, by assumption⟩
    · cases hlength

theorem decodeBytes_written {network : Bytes} (h : IsPrefix network) (account : AccountId) :
    decodeBytes (network ++ account.toList ++ checksum (network ++ account.toList)) = some account := by
  have haccount := account.length_toList
  have hbody : (network ++ account.toList).length = network.length + 32 := by
    rw [List.length_append, haccount]
  have htwo := length_checksum (network ++ account.toList)
  generalize hsum : checksum (network ++ account.toList) = sum at htwo ⊢
  obtain ⟨first, hfirst, hlength⟩ := h.prefixLength? (account.toList ++ sum)
  rw [← List.append_assoc] at hfirst
  have hcount : (network ++ account.toList ++ sum).length = network.length + 34 := by
    rw [List.length_append, hbody, htwo]
  have htake : (network ++ account.toList ++ sum).take (network.length + 32) = network ++ account.toList := by
    rw [← hbody, List.take_left]
  have hdrop : (network ++ account.toList ++ sum).drop (network.length + 32) = sum := by
    rw [← hbody, List.drop_left]
  have hread : ((network ++ account.toList ++ sum).drop network.length).take 32 = account.toList := by
    rw [List.append_assoc, List.drop_left, ← haccount, List.take_left]
  simp only [decodeBytes, hfirst, hlength, hcount, htake, hdrop, hread, hsum, Option.bind_eq_bind,
    Option.bind_some, and_self, if_true, Bytes32.ofList?_toList]

theorem written_of_decodeBytes {bytes : Bytes} {account : AccountId} (h : decodeBytes bytes = some account) :
    ∃ network, IsPrefix network ∧
      bytes = network ++ account.toList ++ checksum (network ++ account.toList) := by
  simp only [decodeBytes, Option.bind_eq_bind, Option.bind_eq_some_iff] at h
  obtain ⟨first, hfirst, length, hlength, h⟩ := h
  split at h
  · rename_i hbytes
    obtain ⟨hcount, hsum⟩ := hbytes
    have haccount : account.toList = (bytes.drop length).take 32 := Bytes32.ofList?_eq_some h
    have hbody : bytes.take length ++ account.toList = bytes.take (length + 32) := by
      rw [haccount, List.take_add]
    refine ⟨bytes.take length, isPrefix_take hfirst hlength (by omega), ?_⟩
    rw [hbody, ← hsum, List.take_append_drop]
  · cases h

/-- A text is read as an account exactly when it is an address of that account. -/
theorem decode_eq_some_iff {text : List Char} {account : AccountId} :
    decode text = some account ↔ IsAddress account text := by
  constructor
  · intro h
    obtain ⟨bytes, hbytes, h⟩ := Option.bind_eq_some_iff.mp h
    obtain ⟨network, hnetwork, rfl⟩ := written_of_decodeBytes h
    exact ⟨network, hnetwork, Base58.decode_eq_some_iff.mp hbytes⟩
  · intro h
    obtain ⟨network, hnetwork, rfl⟩ := h
    exact Option.bind_eq_some_iff.mpr
      ⟨_, Base58.decode_eq_some_iff.mpr rfl, decodeBytes_written hnetwork account⟩

/-- The address that starts with the byte of the generic network is the one that is written. -/
theorem IsAddress.encode_eq {account : AccountId} {text : String} {rest : Bytes} (h : IsAddress account text.toList)
    (hbytes : Base58.decode text.toList = some (42 :: rest)) : encode account = text := by
  obtain ⟨network, hnetwork, htext⟩ := h
  have hstart : network ++ account.toList ++ checksum (network ++ account.toList) = 42 :: rest := by
    rw [htext, encodeWith, Base58.decode_encode] at hbytes
    exact Option.some.inj hbytes
  have hgeneric : network = genericPrefix := by
    match network, hnetwork with
    | [b], _ => rw [(List.cons.inj hstart).1, genericPrefix]
    | [b, _], hnetwork =>
      -- A prefix of two bytes starts with 64 at least.
      rw [(List.cons.inj hstart).1] at hnetwork
      exact absurd hnetwork.1 (by decide)
  rw [encode, ← hgeneric, ← htext, String.ofList_toList]

theorem IsAddress.ne_nil {account : AccountId} {text : List Char} (h : IsAddress account text) : text ≠ [] := by
  intro hnil
  have hread := decode_eq_some_iff.mpr h
  have hnone : decode [] = none := by decide +kernel
  rw [hnil, hnone] at hread
  cases hread

theorem IsAddress.mem_alphabet {account : AccountId} {text : List Char} (h : IsAddress account text) {c : Char}
    (hc : c ∈ text) : c ∈ Base58.alphabet := by
  obtain ⟨network, -, rfl⟩ := h
  exact Base58.mem_alphabet_of_mem_encode hc

end Address.Ss58
end Payout
