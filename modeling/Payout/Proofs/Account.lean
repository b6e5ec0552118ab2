import Payout.Account
import Payout.Proofs.Address.Ss58
import Payout.Proofs.Key.SecretUri

/-!
# Accounts out of text

Addresses and seeds are apart. An address is one word of base 58 digits, and as a seed such a word is a phrase
of too few words, so a mistyped address names no account at all. What is read from an address of an account is
that account, and of its addresses only one starts with the generic prefix.
-/
namespace Payout
open Address

namespace Key

theorem SecretUri.parse_of_phrase {text : List Char} (h : ∀ c ∈ text, isPhraseChar c = true) :
    parse text = some ⟨text, [], none⟩ := by
  refine parse_eq_some_iff.mpr ⟨⟨h, by simp, by simp⟩, ?_⟩
  simp [render]

/-- A mnemonic has more words than one. -/
theorem Mnemonic.entropy?_of_word {phrase : List Char} (h : ' ' ∉ phrase) : entropy? phrase = none := by
  have hwords : Text.words phrase = [] ∨ Text.words phrase = [phrase] := by
    rw [Text.words, Text.splitOn_of_notMem h]
    by_cases hnil : phrase = []
    · exact .inl (by simp [hnil])
    · exact .inr (by simp [hnil])
  rcases hwords with hwords | hwords
  · simp [entropy?, places?, hwords]
  · cases hplace : englishPlace? (phrase.flatMap Text.plainLetters) with
    | none => simp [entropy?, places?, hwords, hplace]
    | some place => simp [entropy?, places?, hwords, hplace]

theorem KeyPair.root_of_word {phrase : List Char} (hblank : ' ' ∉ phrase) (hzero : '0' ∉ phrase)
    (password : List Char) : root phrase password = .error .invalidPhrase := by
  unfold root
  split
  · -- A secret in place of a phrase starts with 0x, and 0 is not in the phrase.
    exact absurd List.mem_cons_self hzero
  · rw [Mnemonic.entropy?_of_word hblank]

theorem SecretUri.isPhraseChar_of_mem_alphabet {c : Char} (h : c ∈ Base58.alphabet) :
    isPhraseChar c = true ∧ c ≠ ' ' ∧ c ≠ '0' := by
  have hall : (Base58.alphabet.all fun c => isPhraseChar c && (c != ' ' && c != '0')) = true := by decide
  simpa using List.all_eq_true.mp hall c h

/-- A word of base 58 digits is the seed of no key. -/
theorem KeyPair.ofSeed_of_word {text : String} (hne : text.toList ≠ [])
    (h : ∀ c ∈ text.toList, c ∈ Base58.alphabet) : ofSeed text = .error .invalidPhrase := by
  have hchar : ∀ c ∈ text.toList, SecretUri.isPhraseChar c = true ∧ c ≠ ' ' ∧ c ≠ '0' :=
    fun c hc => SecretUri.isPhraseChar_of_mem_alphabet (h c hc)
  have hphrase : ∀ c ∈ text.toList, SecretUri.isPhraseChar c = true := fun c hc => (hchar c hc).1
  have hblank : ' ' ∉ text.toList := fun hmem => (hchar _ hmem).2.1 rfl
  have hzero : '0' ∉ text.toList := fun hmem => (hchar _ hmem).2.2 rfl
  simp only [ofSeed, SecretUri.parse_of_phrase hphrase, ofUri, if_neg hne, root_of_word hblank hzero]
  rfl

end Key

section Readings

variable {text : String} {account : AccountId}

theorem accountOfText_of_isAddress (h : Ss58.IsAddress account text.toList) : accountOfText text = .ok account := by
  rw [accountOfText, Ss58.decode_eq_some_iff.mpr h]

theorem accountOfText_of_not_isAddress (h : ∀ account, ¬ Ss58.IsAddress account text.toList) :
    accountOfText text = (Key.KeyPair.ofSeed text).map Key.KeyPair.account := by
  cases hread : Ss58.decode text.toList with
  | none => rw [accountOfText, hread]
  | some account => exact absurd (Ss58.decode_eq_some_iff.mp hread) (h account)

theorem ofSeed_of_isAddress (h : Ss58.IsAddress account text.toList) :
    Key.KeyPair.ofSeed text = .error .invalidPhrase :=
  Key.KeyPair.ofSeed_of_word h.ne_nil fun _ hc => h.mem_alphabet hc

/-- A text that is no seed is read as an account exactly when it is an address of that account. -/
theorem accountOfText_eq_ok_iff {e : Key.SeedError} (hseed : Key.KeyPair.ofSeed text = .error e) :
    accountOfText text = .ok account ↔ Ss58.IsAddress account text.toList := by
  constructor
  · intro h
    by_cases haddress : ∃ other, Ss58.IsAddress other text.toList
    · obtain ⟨other, hother⟩ := haddress
      rw [accountOfText_of_isAddress hother] at h
      obtain rfl := Except.ok.inj h
      exact hother
    · rw [accountOfText_of_not_isAddress (not_exists.mp haddress), hseed] at h
      cases h
  · exact accountOfText_of_isAddress

/-- The account of a seed, or of an address when the text is no seed. -/
def accountOfSeedFirst (text : String) : Except Key.SeedError AccountId :=
  match Key.KeyPair.ofSeed text with
  | .ok pair => .ok pair.account
  | .error e =>
    match Ss58.decode text.toList with
    | some account => .ok account
    | none => .error e

theorem accountOfText_eq_seedFirst (text : String) : accountOfText text = accountOfSeedFirst text := by
  rw [accountOfText, accountOfSeedFirst]
  cases hread : Ss58.decode text.toList with
  | some account =>
    -- The text is an address, so that the seed is tried in vain.
    rw [ofSeed_of_isAddress (Ss58.decode_eq_some_iff.mp hread)]
  | none => cases Key.KeyPair.ofSeed text <;> rfl

/-- A word of base 58 digits is read as an account only when it is an address of that account, and never as the
seed of one. No seed is an address, so that it makes no difference which of the two is tried first. -/
theorem accountOfText_unambiguous (text : String) :
    (text.toList ≠ [] → (∀ c ∈ text.toList, c ∈ Base58.alphabet) →
      Key.KeyPair.ofSeed text = .error .invalidPhrase ∧
      (∀ account, accountOfText text = .ok account ↔ Ss58.IsAddress account text.toList) ∧
      ((∀ account, ¬ Ss58.IsAddress account text.toList) → accountOfText text = .error .invalidPhrase)) ∧
    (∀ pair, Key.KeyPair.ofSeed text = .ok pair → ∀ account, ¬ Ss58.IsAddress account text.toList) ∧
    accountOfText text = accountOfSeedFirst text := by
  refine ⟨fun hne hword => ?_, fun pair hpair account haddress => ?_, accountOfText_eq_seedFirst text⟩
  · have hseed := Key.KeyPair.ofSeed_of_word hne hword
    refine ⟨hseed, fun account => accountOfText_eq_ok_iff hseed, fun h => ?_⟩
    rw [accountOfText_of_not_isAddress h, hseed]
    rfl
  · rw [ofSeed_of_isAddress haddress] at hpair
    cases hpair

/-- An address, the same with its last letter mistyped, and a seed. -/
theorem accountOfText_unambiguous_mistyped :
    accountOfText "5GrwvaEF5zXb26Fz9rcQpDWS57CtERHpNehXCPcNoHGKutQZ" = .error .invalidPhrase ∧
      ∀ account, ¬ Ss58.IsAddress account
        "0x0000000000000000000000000000000000000000000000000000000000000000".toList := by
  have hnone : Ss58.decode "5GrwvaEF5zXb26Fz9rcQpDWS57CtERHpNehXCPcNoHGKutQZ".toList = none := by decide +kernel
  have hdigits : ("5GrwvaEF5zXb26Fz9rcQpDWS57CtERHpNehXCPcNoHGKutQZ".toList.all (· ∈ Base58.alphabet)) = true := by
    decide
  have hword := (accountOfText_unambiguous "5GrwvaEF5zXb26Fz9rcQpDWS57CtERHpNehXCPcNoHGKutQZ").1
    (by decide) fun c hc => of_decide_eq_true (List.all_eq_true.mp hdigits c hc)
  refine ⟨hword.2.2 fun account h => ?_, ?_⟩
  · rw [Ss58.decode_eq_some_iff.mpr h] at hnone
    cases hnone
  · exact (accountOfText_unambiguous _).2.1 (Key.KeyPair.ofSecret Bytes32.zero) rfl

/-- An account is read from each of its addresses. The address under the generic prefix is written again as it
was, so no other text with that prefix is read as the account. -/
theorem accountOfText_roundTrips :
    (∀ (account : AccountId) (network : Bytes), Ss58.IsPrefix network →
      accountOfText (String.ofList (Ss58.encodeWith network account)) = .ok account) ∧
    ∀ (account : AccountId) (text : String) (rest : Bytes), Ss58.decode text.toList = some account →
      Base58.decode text.toList = some (42 :: rest) →
      accountOfText text = .ok account ∧ Ss58.encode account = text ∧
        ∀ (other : String) (rest' : Bytes), Ss58.decode other.toList = some account →
          Base58.decode other.toList = some (42 :: rest') → other = text := by
  refine ⟨fun account network hnetwork => ?_, fun account text rest htext hbytes => ?_⟩
  · exact accountOfText_of_isAddress ⟨network, hnetwork, String.toList_ofList⟩
  · have haddress := Ss58.decode_eq_some_iff.mp htext
    have hwritten := haddress.encode_eq hbytes
    refine ⟨accountOfText_of_isAddress haddress, hwritten, fun other rest' hother hbytes' => ?_⟩
    rw [← (Ss58.decode_eq_some_iff.mp hother).encode_eq hbytes', hwritten]

/-- The account of zeros only, under a prefix of two bytes and under the generic one. -/
theorem accountOfText_roundTrips_zero :
    accountOfText (String.ofList (Ss58.encodeWith [127, 0] Bytes32.zero)) = .ok Bytes32.zero ∧
      Ss58.encode Bytes32.zero = "5C4hrfjw9DjXZTzV3MwzrrAr9P1MJhSrvWGWqi1eSuyUpnhM" := by
  have htext : Ss58.decode "5C4hrfjw9DjXZTzV3MwzrrAr9P1MJhSrvWGWqi1eSuyUpnhM".toList = some Bytes32.zero := by
    decide +kernel
  have hbytes : Base58.decode "5C4hrfjw9DjXZTzV3MwzrrAr9P1MJhSrvWGWqi1eSuyUpnhM".toList =
      some (42 :: (List.replicate 32 0 ++ [166, 0])) := by
    decide +kernel
  constructor
  · exact accountOfText_roundTrips.1 _ _ ⟨by decide, by decide⟩
  · exact (accountOfText_roundTrips.2 _ _ _ htext hbytes).2.1

end Readings
end Payout
