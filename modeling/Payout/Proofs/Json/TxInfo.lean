import Payout.Proofs.Json.Object

/-!
# Transactions in JSON

A transaction is read from the texts of objects in which each of its two hashes is the value of exactly one member,
and from the texts of lists of the two. No other text is read.
-/
namespace Payout.Json

/-- A list of two values as they are written, and its text. -/
def PairText (v w text : List Char) : Prop :=
  ∃ b₀ b₁ b₂ b₃ b₄ b₅, Blank b₀ ∧ Blank b₁ ∧ Blank b₂ ∧ Blank b₃ ∧ Blank b₄ ∧ Blank b₅ ∧
    text = b₀ ++ '[' :: (b₁ ++ (v ++ (b₂ ++ ',' :: (b₃ ++ (w ++ (b₄ ++ ']' :: b₅))))))

/-! ### Reading lists -/

theorem readFirst_sound {s rest : List Char} {h : Bytes32} (hread : readFirst s = .ok (h, rest)) :
    ∃ b v, Blank b ∧ HashValue h v ∧ s = b ++ (v ++ rest) := by
  unfold readFirst at hread
  split at hread
  · cases hread
  · cases hread
  · obtain ⟨b, hb, hs⟩ := exists_blank s
    obtain ⟨b', v, hb', hv, heq⟩ := readHash_sound hread
    exact ⟨b ++ b', v, hb.append hb', hv, by rw [hs, heq, List.append_assoc]⟩

theorem readSecond_sound {s rest : List Char} {h : Bytes32} (hread : readSecond s = .ok (h, rest)) :
    ∃ b b' v, Blank b ∧ Blank b' ∧ HashValue h v ∧ s = b ++ ',' :: (b' ++ (v ++ rest)) := by
  unfold readSecond at hread
  split at hread
  · cases hread
  · cases hread
  · rename_i t hs
    obtain ⟨b, hb, rfl⟩ := exists_blank_of_skipBlanks hs
    split at hread
    · cases hread
    · cases hread
    · obtain ⟨b', hb', ht⟩ := exists_blank t
      obtain ⟨b'', v, hb'', hv, heq⟩ := readHash_sound hread
      exact ⟨b, b' ++ b'', v, hb, hb'.append hb'', hv, by rw [ht, heq, List.append_assoc]⟩
  · cases hread

theorem HashValue.readFirst {h : Bytes32} {b v : List Char} (hv : HashValue h v) (hb : Blank b) (rest : List Char) :
    readFirst (b ++ (v ++ rest)) = .ok (h, rest) := by
  have hread := hv.read .nil rest
  cases hv with
  | mk =>
    rw [List.cons_append] at hread ⊢
    simpa [Json.readFirst, skipBlanks_append_cons hb (c := '"') rfl] using hread

theorem HashValue.readSecond {h : Bytes32} {b b' v : List Char} (hv : HashValue h v) (hb : Blank b) (hb' : Blank b')
    (rest : List Char) : readSecond (b ++ ',' :: (b' ++ (v ++ rest))) = .ok (h, rest) := by
  have hread := hv.read .nil rest
  cases hv with
  | mk =>
    rw [List.cons_append] at hread ⊢
    simpa [Json.readSecond, skipBlanks_append_cons hb (c := ',') rfl, skipBlanks_append_cons hb' (c := '"') rfl]
      using hread

theorem readListEnd_eq_ok_iff {s rest : List Char} :
    readListEnd s = .ok rest ↔ ∃ b, Blank b ∧ s = b ++ ']' :: rest := by
  constructor
  · intro h
    unfold readListEnd at h
    split at h
    · cases h
    · rename_i hs
      cases h
      exact exists_blank_of_skipBlanks hs
    · split at h <;> cases h
    · cases h
  · rintro ⟨b, hb, rfl⟩
    simp [readListEnd, skipBlanks_append_cons hb (c := ']') rfl]

theorem readPair_eq_ok_iff {s rest : List Char} {info : TxInfo} :
    readPair s = .ok (info, rest) ↔ ∃ b₁ v b₂ b₃ w b₄, Blank b₁ ∧ Blank b₂ ∧ Blank b₃ ∧ Blank b₄ ∧
      HashValue info.blockHash v ∧ HashValue info.txHash w ∧
      s = b₁ ++ (v ++ (b₂ ++ ',' :: (b₃ ++ (w ++ (b₄ ++ ']' :: rest))))) := by
  unfold readPair
  constructor
  · intro h
    obtain ⟨⟨block, s₁⟩, hfirst, h⟩ := Outcome.bind_eq_ok_iff.1 h
    obtain ⟨⟨tx, s₂⟩, hsecond, h⟩ := Outcome.bind_eq_ok_iff.1 h
    obtain ⟨s₃, hend, h⟩ := Outcome.bind_eq_ok_iff.1 h
    cases h
    obtain ⟨b₁, v, hb₁, hv, rfl⟩ := readFirst_sound hfirst
    obtain ⟨b₂, b₃, w, hb₂, hb₃, hw, rfl⟩ := readSecond_sound hsecond
    obtain ⟨b₄, hb₄, rfl⟩ := readListEnd_eq_ok_iff.1 hend
    exact ⟨b₁, v, b₂, b₃, w, b₄, hb₁, hb₂, hb₃, hb₄, hv, hw, rfl⟩
  · rintro ⟨b₁, v, b₂, b₃, w, b₄, hb₁, hb₂, hb₃, hb₄, hv, hw, rfl⟩
    rw [hv.readFirst hb₁]
    refine Outcome.bind_eq_ok_iff.2 ⟨_, rfl, ?_⟩
    dsimp only
    rw [hw.readSecond hb₂ hb₃]
    refine Outcome.bind_eq_ok_iff.2 ⟨_, rfl, ?_⟩
    dsimp only
    rw [readListEnd_eq_ok_iff.2 ⟨b₄, hb₄, rfl⟩]
    rfl

/-! ### Reading transactions -/

/-- A text that is an object in which each hash has its own member, or a list of the two. -/
inductive TxInfoText (info : TxInfo) : List Char → Prop
  | object {es : List Entry} {text : List Char} : ObjectText es text → HashMember "block_hash" info.blockHash es →
      HashMember "tx_hash" info.txHash es → TxInfoText info text
  | list {v w text : List Char} : PairText v w text → HashValue info.blockHash v → HashValue info.txHash w →
      TxInfoText info text

theorem readTxInfo_sound {s rest : List Char} {info : TxInfo} (h : readTxInfo s = .ok (info, rest))
    (hrest : Blank rest) : TxInfoText info s := by
  unfold readTxInfo at h
  split at h
  · rename_i hs
    obtain ⟨b, hb, rfl⟩ := exists_blank_of_skipBlanks hs
    obtain ⟨es, raw, hes, hmembers, rfl⟩ := readMembers_sound h
    obtain ⟨hblock, htx⟩ := exists_recordsAll_iff.1 hmembers
    exact .object (.mk hb hes hrest) hblock htx
  · rename_i hs
    obtain ⟨b, hb, rfl⟩ := exists_blank_of_skipBlanks hs
    obtain ⟨b₁, v, b₂, b₃, w, b₄, hb₁, hb₂, hb₃, hb₄, hv, hw, rfl⟩ := readPair_eq_ok_iff.1 h
    exact .list ⟨b, b₁, b₂, b₃, b₄, rest, hb, hb₁, hb₂, hb₃, hb₄, hrest, rfl⟩ hv hw
  · cases h

theorem TxInfoText.read {info : TxInfo} {s : List Char} (h : TxInfoText info s) :
    ∃ rest, Blank rest ∧ readTxInfo s = .ok (info, rest) := by
  cases h with
  | object htext hblock htx =>
    cases htext with
    | @mk b s b' hb hes hb' =>
      obtain ⟨q, hq, hfinish⟩ := exists_recordsAll_iff.2 ⟨hblock, htx⟩
      refine ⟨b', hb', ?_⟩
      rw [readTxInfo, skipBlanks_append_cons hb rfl]
      exact readMembers_complete hes hq hfinish b'
  | list htext hv hw =>
    obtain ⟨b, b₁, b₂, b₃, b₄, b₅, hb, hb₁, hb₂, hb₃, hb₄, hb₅, rfl⟩ := htext
    refine ⟨b₅, hb₅, ?_⟩
    rw [readTxInfo, skipBlanks_append_cons hb rfl]
    exact readPair_eq_ok_iff.2 ⟨b₁, _, b₂, b₃, _, b₄, hb₁, hb₂, hb₃, hb₄, hv, hw, rfl⟩

/-- A transaction is read from its texts, and from no others. -/
theorem ofJson_eq_ok_iff {text : String} {info : TxInfo} :
    TxInfo.ofJson text = .ok info ↔ TxInfoText info text.toList := by
  unfold TxInfo.ofJson
  constructor
  · intro h
    obtain ⟨⟨info', rest⟩, hread, h⟩ := Outcome.bind_eq_ok_iff.1 h
    dsimp only at h
    split at h
    · cases h
      exact readTxInfo_sound hread (blank_of_skipBlanks (List.isEmpty_iff.1 ‹_›))
    · cases h
  · intro h
    obtain ⟨rest, hrest, hread⟩ := h.read
    have hend : skipBlanks rest = [] := by simpa [skipBlanks] using skipBlanks_append hrest []
    rw [hread]
    refine Outcome.bind_eq_ok_iff.2 ⟨_, rfl, ?_⟩
    simp only [hend, List.isEmpty_nil, if_true]
    rfl

/-! ### Writing transactions -/

/-- A hash as a member of an object. -/
def hashEntry (name : String) (h : Bytes32) : Entry :=
  ⟨name.toList, '"' :: (h.hex.toList ++ ['"'])⟩

theorem hashEntry_plain (m : Members.Member) (h : Bytes32) : (hashEntry m.name h).Plain := by
  refine ⟨spelling_self ?_, (hashValue_hex h).written⟩
  cases m <;> simp [hashEntry, Members.Member.name]

theorem toJson_eq (info : TxInfo) : info.toJson =
    "\x7b\"block_hash\":\"" ++ info.blockHash.hex ++ "\",\"tx_hash\":\"" ++ info.txHash.hex ++ "\"\x7d" := rfl

theorem toJson_toList (info : TxInfo) : info.toJson.toList =
    compactObject [hashEntry "block_hash" info.blockHash, hashEntry "tx_hash" info.txHash] := by
  simp [toJson_eq, compactObject, compactRest, Entry.compact, hashEntry]

/-- The text of a transaction is one from which it is read. -/
theorem toJson_text (info : TxInfo) : TxInfoText info info.toJson.toList := by
  have hobject : ObjectText [hashEntry "block_hash" info.blockHash, hashEntry "tx_hash" info.txHash]
      info.toJson.toList := by
    rw [toJson_toList]
    apply objectText_compact
    simpa using ⟨hashEntry_plain .blockHash info.blockHash, hashEntry_plain .txHash info.txHash⟩
  refine .object hobject ⟨hashEntry "block_hash" info.blockHash, ?_, hashValue_hex info.blockHash⟩
    ⟨hashEntry "tx_hash" info.txHash, ?_, hashValue_hex info.txHash⟩
  · simp [hashEntry]
  · simp [hashEntry]

/-! ### One text, one transaction -/

/-- No text is both an object and a list. -/
theorem ObjectText.not_pair {es : List Entry} {v w text : List Char} (h : ObjectText es text) :
    ¬PairText v w text := by
  rintro ⟨b₀, b₁, b₂, b₃, b₄, b₅, hb₀, -, -, -, -, -, heq⟩
  cases h with
  | mk hb _ _ =>
    have hskip := congrArg skipBlanks heq
    rw [skipBlanks_append_cons hb rfl, skipBlanks_append_cons hb₀ rfl] at hskip
    cases hskip

/-- Which transaction an object is depends on the members of the two names only. -/
theorem ObjectText.read_iff {es : List Entry} {text : String} {info : TxInfo} (h : ObjectText es text.toList) :
    TxInfo.ofJson text = .ok info ↔
      HashMember "block_hash" info.blockHash es ∧ HashMember "tx_hash" info.txHash es := by
  rw [ofJson_eq_ok_iff]
  constructor
  · intro htext
    cases htext with
    | object h' hblock htx =>
      rw [h.unique h']
      exact ⟨hblock, htx⟩
    | list h' _ _ => exact absurd h' h.not_pair
  · rintro ⟨hblock, htx⟩
    exact .object h hblock htx

end Payout.Json

namespace Payout
open Json

/-- A transaction is read back from its text, where its hashes stand as they do in its description: in full, as
lower-case digits after `0x`. It is read from the objects in which each hash is the value of exactly one member and
from the lists of the two hashes, and from nothing else. Where the text of a hash has no blanks, it is the digits of
its bytes. -/
theorem TxInfo.ofJson_by_grammar (info : TxInfo) (h : Bytes32) (text : String) (es : List Entry) (cs : List Char) :
    ofJson info.toJson = .ok info ∧
      info.toJson =
        "\x7b\"block_hash\":\"" ++ info.blockHash.hex ++ "\",\"tx_hash\":\"" ++ info.txHash.hex ++ "\"\x7d" ∧
      info.describe =
        "TxInfo \x7b block_hash: " ++ info.blockHash.hex ++ ", tx_hash: " ++ info.txHash.hex ++ " \x7d" ∧
      (∃ digits, h.hex.toList = '0' :: 'x' :: digits ∧ digits.length = 64 ∧
        (∀ c ∈ digits, c ∈ "0123456789abcdef".toList) ∧ Hex.decode digits = some h.toList) ∧
      (ofJson text = .ok info ↔ TxInfoText info text.toList) ∧
      (ObjectText es text.toList → (ofJson text = .ok info ↔
        HashMember "block_hash" info.blockHash es ∧ HashMember "tx_hash" info.txHash es)) ∧
      (Fills h cs ∧ (∀ c ∈ cs, isBlank c = false) ↔ Hex.decode cs = some h.toList) := by
  refine ⟨ofJson_eq_ok_iff.2 (toJson_text info), toJson_eq info, rfl, ?_, ofJson_eq_ok_iff,
    fun hes => hes.read_iff, ?_⟩
  · refine ⟨Hex.encode h.toList, hex_toList h, ?_, fun c hc => mem_of_mem_encode hc, Hex.decode_encode h.toList⟩
    rw [Hex.length_encode, h.length_toList]
  · constructor
    · rintro ⟨hfills, hcs⟩
      exact (fills_iff_decode hcs).1 hfills
    · intro hbytes
      have hcs : ∀ c ∈ cs, isBlank c = false :=
        fun c hc => isBlank_eq_false_of_digit (Hex.isSome_of_decode hbytes c hc)
      exact ⟨(fills_iff_decode hcs).2 hbytes, hcs⟩

/-- The hashes the other way round, and a list with an object in it between them. -/
def mixedEntries : List Entry :=
  [hashEntry "tx_hash" .zero, ⟨"note".toList, "[0,\x7b\x7d]".toList⟩, hashEntry "block_hash" (.repeated 0xab)]

theorem mixedEntries_plain : ∀ e ∈ mixedEntries, e.Plain := by
  have hzero : Written .value ['0'] := .scalar (.natural (.mk .zero .absent .absent))
  have hempty : Written .value ['{', '}'] := .frame (f := .object) (.empty .nil)
  have hlist : Written .value "[0,\x7b\x7d]".toList := by
    have h := Written.frame (f := .list)
      (.full (.item .list .nil hzero (.next .nil (.item .list .nil hempty (.last .nil)))))
    simpa [Frame.opening, Frame.closing] using h
  have hnote : Spelling "note".toList "note".toList := spelling_self (by simp)
  simpa [mixedEntries] using
    ⟨hashEntry_plain .txHash .zero, ⟨hnote, hlist⟩, hashEntry_plain .blockHash (.repeated 0xab)⟩

theorem TxInfo.ofJson_by_grammar_mixed :
    ObjectText mixedEntries (String.ofList (compactObject mixedEntries)).toList ∧
      ofJson (String.ofList (compactObject mixedEntries)) = .ok ⟨.repeated 0xab, .zero⟩ := by
  have hobject : ObjectText mixedEntries (String.ofList (compactObject mixedEntries)).toList := by
    rw [String.toList_ofList]
    exact objectText_compact mixedEntries_plain
  have hread := (ofJson_by_grammar ⟨.repeated 0xab, .zero⟩ .zero (.ofList (compactObject mixedEntries)) mixedEntries
    []).2.2.2.2.2.1
  refine ⟨hobject, (hread hobject).2 ⟨?_, ?_⟩⟩
  · exact ⟨hashEntry "block_hash" (.repeated 0xab), by simp [mixedEntries, hashEntry], hashValue_hex _⟩
  · exact ⟨hashEntry "tx_hash" .zero, by simp [mixedEntries, hashEntry], hashValue_hex _⟩

/-- The text of the zero hash, its last two digits blank. -/
def blankedZero : List Char :=
  List.replicate 62 '0' ++ [' ', ' ']

theorem mem_blankedZero {c : Char} (h : c ∈ blankedZero) : c = '0' ∨ c = ' ' := by
  simp only [blankedZero, List.mem_append, List.mem_replicate, List.mem_cons, List.not_mem_nil,
    or_false, or_self] at h
  exact h.imp_left And.right

theorem hashValue_blankedZero : HashValue .zero ('"' :: (blankedZero ++ ['"'])) := by
  have hfills : Fills .zero blankedZero := by
    refine ⟨rfl, fun c hc => ?_, List.replicate 62 '0', [], List.replicate 31 0, rfl, Nat.zero_le 1, by decide, rfl⟩
    rcases mem_blankedZero hc with rfl | rfl
    · exact .inr rfl
    · exact .inl rfl
  refine .mk (spelling_self fun c hc => ?_) (.bare hfills)
  rcases mem_blankedZero hc with rfl | rfl <;> decide

/-- A list of the zero hash twice, its last two digits blank. -/
def blankedPair : List Char :=
  '[' :: '"' :: (blankedZero ++ '"' :: ',' :: '"' :: (blankedZero ++ ['"', ']']))

theorem pairText_blankedPair :
    PairText ('"' :: (blankedZero ++ ['"'])) ('"' :: (blankedZero ++ ['"'])) blankedPair :=
  ⟨[], [], [], [], [], [], .nil, .nil, .nil, .nil, .nil, .nil, by simp [blankedPair]⟩

/-- An object with the zero hashes, and before them a member whose name is half a character. -/
def halfNamed : List Char :=
  '{' :: '"' :: '\\' :: 'u' :: 'd' :: '8' :: '0' :: '0' :: '"' :: ':' :: '0' ::
    (compactRest [hashEntry "block_hash" .zero, hashEntry "tx_hash" .zero] ++ ['}'])

theorem hex4_half : Hex4 0xD800 ['d', '8', '0', '0'] :=
  .mk (x := 13) (y := 8) (z := 0) (w := 0) rfl rfl rfl rfl

theorem written_halfNamed : Written .value halfNamed := by
  have hzero : Written .value ['0'] := .scalar (.natural (.mk .zero .absent .absent))
  have hplain : ∀ e ∈ [hashEntry "block_hash" .zero, hashEntry "tx_hash" .zero], e.Plain := by
    simpa using ⟨hashEntry_plain .blockHash .zero, hashEntry_plain .txHash .zero⟩
  have hrest := (entries_compactRest hplain).written
  exact .frame (f := .object) (.full (.item (.object .nil (.unicode hex4_half .nil) .nil) .nil hzero hrest))

theorem readString_half (rest : List Char) :
    readString ('\\' :: 'u' :: 'd' :: '8' :: '0' :: '0' :: '"' :: rest) = .error .endOfEscape := by
  have hread : readEscape ('u' :: 'd' :: '8' :: '0' :: '0' :: '"' :: rest) = .error .endOfEscape := by
    have hhex := hex4_half.read ('"' :: rest)
    simp only [List.cons_append, List.nil_append] at hhex
    simp [readEscape, readUnicode, hhex, readLowSurrogate]
  rw [readString]
  split <;> simp_all

theorem readTxInfo_halfNamed : readTxInfo halfNamed = .error .endOfEscape := by
  unfold halfNamed
  generalize compactRest [hashEntry "block_hash" .zero, hashEntry "tx_hash" .zero] ++ ['}'] = rest
  have hkey : nextKey true ('"' :: '\\' :: 'u' :: 'd' :: '8' :: '0' :: '0' :: '"' :: ':' :: '0' :: rest) =
      .error .endOfEscape := by
    simp [nextKey, skipBlanks_cons (c := '"') rfl, readKey, readString_half, Except.map]
  rw [readTxInfo, skipBlanks_cons rfl]
  exact readMembers_error hkey

theorem TxInfo.ofJson_takes_blanks_not_halves :
    Hex.decode blankedZero = none ∧ PairText ('"' :: (blankedZero ++ ['"'])) ('"' :: (blankedZero ++ ['"'])) blankedPair ∧
      ofJson (String.ofList blankedPair) = .ok ⟨.zero, .zero⟩ ∧
      Written .value halfNamed ∧ ofJson (String.ofList halfNamed) = .error .endOfEscape := by
  refine ⟨by decide, pairText_blankedPair, ?_, written_halfNamed, ?_⟩
  · rw [ofJson_eq_ok_iff, String.toList_ofList]
    exact .list pairText_blankedPair hashValue_blankedZero hashValue_blankedZero
  · unfold ofJson
    rw [String.toList_ofList, readTxInfo_halfNamed]
    rfl

end Payout
