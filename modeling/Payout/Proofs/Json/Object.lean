import Payout.Proofs.Json.Hash

/-!
# Objects with hashes

An object is its members, each with a name that is a text and a value that is written by the grammar. Reading the
members of an object finds the hashes when each of the two names stands before exactly one hash, wherever that is and
whatever the other members are.
-/
namespace Payout.Json

/-! ### Objects by their members -/

/-- A member of an object: its name, and its value as it is written. -/
structure Entry where
  name : List Char
  value : List Char

/-- The text of a member. -/
inductive Entry.Text : Entry → List Char → Prop
  | mk {name raw b b' v : List Char} : Spelling name raw → Blank b → Blank b' → Written .value v →
      Text ⟨name, v⟩ ('"' :: (raw ++ '"' :: (b ++ ':' :: (b' ++ v))))

/-- What stands before a member: a comma, unless it is the first one. -/
inductive Before : Bool → List Char → Prop
  | first {b : List Char} : Blank b → Before true b
  | next {b b' : List Char} : Blank b → Blank b' → Before false (b ++ ',' :: b')

/-- Members up to the end of their object, and their text. -/
inductive Entries : Bool → List Entry → List Char → Prop
  | nil {first : Bool} {b : List Char} : Blank b → Entries first [] b
  | cons {first : Bool} {e : Entry} {es : List Entry} {l s t : List Char} : Before first l → e.Text s →
      Entries false es t → Entries first (e :: es) (l ++ (s ++ t))

/-- An object of given members, and its text. -/
inductive ObjectText (es : List Entry) : List Char → Prop
  | mk {b s b' : List Char} : Blank b → Entries true es s → Blank b' → ObjectText es (b ++ '{' :: (s ++ '}' :: b'))

/-- Exactly one member has the name, and its value is the hash. -/
def HashMember (name : String) (h : Bytes32) (es : List Entry) : Prop :=
  ∃ e, es.filter (fun e => e.name = name.toList) = [e] ∧ HashValue h e.value

/-! ### What a member changes -/

namespace Members

theorem Member.name_injective {m m' : Member} (h : m.name.toList = m'.name.toList) : m = m' := by
  have hname := String.toList_inj.1 h
  cases m <;> cases m' <;> first | rfl | exact absurd hname (by decide)

theorem Member.ofKey?_name (m : Member) : ofKey? m.name.toList = some m := by
  have hne : Member.txHash.name.toList ≠ Member.blockHash.name.toList := fun h => by cases name_injective h
  cases m with
  | blockHash => exact if_pos rfl
  | txHash => exact (if_neg hne).trans (if_pos rfl)

theorem Member.ofKey?_eq_some_iff {key : List Char} {m : Member} : ofKey? key = some m ↔ key = m.name.toList := by
  constructor
  · intro h
    unfold ofKey? at h
    split at h
    · cases h
      assumption
    · split at h
      · cases h
        assumption
      · cases h
  · rintro rfl
    exact m.ofKey?_name

@[simp] theorem get?_set_self (p : Members) (m : Member) (h : Bytes32) : (p.set m h).get? m = some h := by
  cases m <;> rfl

theorem get?_set_of_ne {m m' : Member} (hm : m' ≠ m) (p : Members) (h : Bytes32) :
    (p.set m h).get? m' = p.get? m' := by
  cases m <;> cases m' <;> first | rfl | exact absurd rfl hm

theorem ext_get? {p q : Members} (h : ∀ m, p.get? m = q.get? m) : p = q := by
  have hblock := h .blockHash
  have htx := h .txHash
  cases p
  cases q
  simp_all [get?]

theorem finish_eq_ok_iff {p : Members} {info : TxInfo} :
    p.finish = .ok info ↔ p.get? .blockHash = some info.blockHash ∧ p.get? .txHash = some info.txHash := by
  obtain ⟨block, tx⟩ := p
  obtain ⟨b, t⟩ := info
  cases block <;> cases tx <;> simp [finish, get?]

end Members

/-- What is known of the hashes before and after a member. -/
inductive Records (p : Members) : Entry → Members → Prop
  | other {e : Entry} : Members.Member.ofKey? e.name = none → Records p e p
  | hash {e : Entry} {m : Members.Member} {h : Bytes32} : Members.Member.ofKey? e.name = some m → p.get? m = none →
      HashValue h e.value → Records p e (p.set m h)

/-- What is known of the hashes before and after members. -/
inductive RecordsAll : Members → List Entry → Members → Prop
  | nil {p : Members} : RecordsAll p [] p
  | cons {p q r : Members} {e : Entry} {es : List Entry} :
      Records p e q → RecordsAll q es r → RecordsAll p (e :: es) r

/-- What members tell of one of the hashes: nothing, or all there is to know. -/
def Tells (es : List Entry) (m : Members.Member) (known after : Option Bytes32) : Prop :=
  (es.filter (fun e => e.name = m.name.toList) = [] ∧ after = known) ∨
    (known = none ∧ ∃ h, HashMember m.name h es ∧ after = some h)

theorem tells_nil {m : Members.Member} {known after : Option Bytes32} : Tells [] m known after ↔ after = known := by
  simp [Tells, HashMember]

section one_member

variable {p q : Members} {e : Entry} {es : List Entry} {m : Members.Member} {known after : Option Bytes32}

theorem tells_cons_of_ne (he : Members.Member.ofKey? e.name ≠ some m) :
    Tells (e :: es) m known after ↔ Tells es m known after := by
  have hname : e.name ≠ m.name.toList := fun h => he (Members.Member.ofKey?_eq_some_iff.2 h)
  simp [Tells, HashMember, hname]

theorem tells_cons_of_eq (he : Members.Member.ofKey? e.name = some m) :
    Tells (e :: es) m known after ↔ known = none ∧ ∃ h, HashValue h e.value ∧ Tells es m (some h) after := by
  have hname := Members.Member.ofKey?_eq_some_iff.1 he
  constructor
  · rintro (⟨hnone, -⟩ | ⟨hknown, h, ⟨e', hfilter, hvalue⟩, hafter⟩)
    · simp [hname] at hnone
    · simp only [List.filter_cons, hname, decide_true, if_true, List.cons.injEq] at hfilter
      obtain ⟨rfl, hrest⟩ := hfilter
      exact ⟨hknown, h, hvalue, .inl ⟨hrest, hafter⟩⟩
  · rintro ⟨hknown, h, hvalue, ⟨hrest, hafter⟩ | ⟨hsome, -⟩⟩
    · exact .inr ⟨hknown, h, ⟨e, by simp [hname, hrest], hvalue⟩, hafter⟩
    · cases hsome

theorem Records.tells (he : Records p e q) (h : Tells es m (q.get? m) after) :
    Tells (e :: es) m (p.get? m) after := by
  cases he with
  | other hname =>
    refine (tells_cons_of_ne ?_).2 h
    rw [hname]
    simp
  | @hash m' hash hname hnone hvalue =>
    by_cases hm : m = m'
    · subst hm
      rw [Members.get?_set_self] at h
      exact (tells_cons_of_eq hname).2 ⟨hnone, hash, hvalue, h⟩
    · rw [Members.get?_set_of_ne hm] at h
      exact (tells_cons_of_ne fun h => hm (Option.some.inj (h.symm.trans hname))).2 h

end one_member

theorem exists_records {p : Members} {e : Entry} {es : List Entry} {after : Members.Member → Option Bytes32}
    (h : ∀ m, Tells (e :: es) m (p.get? m) (after m)) :
    ∃ q, Records p e q ∧ ∀ m, Tells es m (q.get? m) (after m) := by
  cases hname : Members.Member.ofKey? e.name with
  | none =>
    refine ⟨p, .other hname, fun m => (tells_cons_of_ne ?_).1 (h m)⟩
    rw [hname]
    simp
  | some m =>
    obtain ⟨hnone, hash, hvalue, hm⟩ := (tells_cons_of_eq hname).1 (h m)
    refine ⟨_, .hash hname hnone hvalue, fun m' => ?_⟩
    by_cases hsame : m' = m
    · rw [hsame, Members.get?_set_self]
      exact hm
    · rw [Members.get?_set_of_ne hsame]
      exact (tells_cons_of_ne fun h => hsame (Option.some.inj (h.symm.trans hname))).1 (h m')

/-- Each hash depends on the members of its own name only. -/
theorem recordsAll_iff {p q : Members} {es : List Entry} :
    RecordsAll p es q ↔ ∀ m, Tells es m (p.get? m) (q.get? m) := by
  constructor
  · intro h m
    induction h with
    | nil => exact tells_nil.2 rfl
    | cons he _ ih => exact he.tells ih
  · intro h
    induction es generalizing p with
    | nil =>
      rw [Members.ext_get? fun m => tells_nil.1 (h m)]
      exact .nil
    | cons e es ih =>
      obtain ⟨r, he, hes⟩ := exists_records h
      exact .cons he (ih hes)

/-- Both hashes are known after the members of an object when each has its own member. -/
theorem exists_recordsAll_iff {es : List Entry} {info : TxInfo} :
    (∃ q, RecordsAll {} es q ∧ q.finish = .ok info) ↔
      HashMember "block_hash" info.blockHash es ∧ HashMember "tx_hash" info.txHash es := by
  have htells (m : Members.Member) (h : Bytes32) : Tells es m none (some h) ↔ HashMember m.name h es := by
    simp [Tells]
  constructor
  · rintro ⟨q, hq, hfinish⟩
    obtain ⟨hblock, htx⟩ := Members.finish_eq_ok_iff.1 hfinish
    have hes := recordsAll_iff.1 hq
    exact ⟨(htells .blockHash _).1 (hblock ▸ hes .blockHash), (htells .txHash _).1 (htx ▸ hes .txHash)⟩
  · rintro ⟨hblock, htx⟩
    refine ⟨⟨some info.blockHash, some info.txHash⟩, recordsAll_iff.2 ?_, rfl⟩
    intro m
    cases m with
    | blockHash => exact (htells .blockHash _).2 hblock
    | txHash => exact (htells .txHash _).2 htx

/-! ### Reading objects -/

theorem readMember_sound {p q : Members} {key s rest : List Char} (h : readMember p key s = .ok (q, rest)) :
    ∃ b b' v, Blank b ∧ Blank b' ∧ Written .value v ∧ Records p ⟨key, v⟩ q ∧ s = b ++ ':' :: (b' ++ (v ++ rest)) := by
  unfold readMember at h
  split at h
  · obtain ⟨t, ht, h⟩ := Outcome.bind_eq_ok_iff.1 h
    obtain ⟨rest', hskip, heq⟩ := Outcome.map_eq_ok_iff.1 h
    cases heq
    obtain ⟨b, hb, rfl⟩ := readColon_sound ht
    obtain ⟨b', v, hb', hv, rfl⟩ := skip_sound hskip
    exact ⟨b, b', v, hb, hb', hv, .other ‹_›, rfl⟩
  · split at h
    · cases h
    · rename_i hnone
      obtain ⟨t, ht, h⟩ := Outcome.bind_eq_ok_iff.1 h
      obtain ⟨⟨hash, rest'⟩, hread, heq⟩ := Outcome.map_eq_ok_iff.1 h
      cases heq
      obtain ⟨b, hb, rfl⟩ := readColon_sound ht
      obtain ⟨b', v, hb', hv, rfl⟩ := readHash_sound hread
      exact ⟨b, b', v, hb, hb', hv.written, .hash ‹_› (by simpa using hnone) hv, rfl⟩

theorem readMember_complete {p q : Members} {key b b' v rest : List Char} (he : Records p ⟨key, v⟩ q) (hb : Blank b)
    (hb' : Blank b') (hv : Written .value v) (hrest : Delimited rest) :
    readMember p key (b ++ ':' :: (b' ++ (v ++ rest))) = .ok (q, rest) := by
  unfold readMember
  cases he with
  | other hname =>
    dsimp only at hname
    simp only [hname, readColon_complete hb, Except.bind, skip_complete hb' hv hrest, Except.map]
  | hash hname hnone hvalue =>
    dsimp only at hname hvalue
    simp [hname, hnone, readColon_complete hb, Except.bind, hvalue.read hb', Except.map]

theorem readKey_sound {s rest : List Char} {key : Option (List Char)} (h : readKey s = .ok (key, rest)) :
    ∃ text raw, key = some text ∧ Spelling text raw ∧ s = '"' :: (raw ++ '"' :: rest) := by
  unfold readKey at h
  split at h
  · obtain ⟨⟨text, _⟩, hread, heq⟩ := Outcome.map_eq_ok_iff.1 h
    cases heq
    obtain ⟨raw, hraw, rfl⟩ := readString_sound hread
    exact ⟨text, raw, rfl, hraw, rfl⟩
  · cases h

/-- Either the object ends, or a name follows. -/
theorem nextKey_sound {first : Bool} {key : Option (List Char)} {s rest : List Char}
    (h : nextKey first s = .ok (key, rest)) :
    (key = none ∧ ∃ b, Blank b ∧ s = b ++ '}' :: rest) ∨
      ∃ text l raw, key = some text ∧ Before first l ∧ Spelling text raw ∧ s = l ++ '"' :: (raw ++ '"' :: rest) := by
  unfold nextKey at h
  split at h
  · cases h
  · rename_i hs
    cases h
    exact .inl ⟨rfl, exists_blank_of_skipBlanks hs⟩
  · rename_i hs
    obtain ⟨b, hb, rfl⟩ := exists_blank_of_skipBlanks hs
    right
    split at h
    · rename_i hfirst
      obtain ⟨text, raw, rfl, hraw, heq⟩ := readKey_sound h
      rw [hfirst, heq]
      exact ⟨text, b, raw, rfl, .first hb, hraw, rfl⟩
    · rename_i hfirst
      split at h
      · rename_i hcomma
        split at h
        · cases h
        · cases h
        · obtain ⟨text, raw, rfl, hraw, heq⟩ := readKey_sound h
          obtain ⟨b', hb', rfl⟩ := exists_blank_of_skipBlanks heq
          rw [Bool.not_eq_true] at hfirst
          rw [hfirst, hcomma]
          exact ⟨text, _, raw, rfl, .next hb hb', hraw, by simp⟩
      · cases h

theorem nextKey_end {first : Bool} {b : List Char} (hb : Blank b) (rest : List Char) :
    nextKey first (b ++ '}' :: rest) = .ok (none, rest) := by
  simp [nextKey, skipBlanks_append_cons hb (c := '}') rfl]

theorem nextKey_complete {first : Bool} {key l raw : List Char} (hl : Before first l) (hraw : Spelling key raw)
    (rest : List Char) : nextKey first (l ++ '"' :: (raw ++ '"' :: rest)) = .ok (some key, rest) := by
  cases hl with
  | first hb => simp [nextKey, skipBlanks_append_cons hb (c := '"') rfl, readKey, hraw.read, Except.map]
  | next hb hb' =>
    rw [List.append_assoc, List.cons_append]
    simp [nextKey, skipBlanks_append_cons hb (c := ',') rfl, skipBlanks_append_cons hb' (c := '"') rfl, readKey,
      hraw.read, Except.map]

theorem Before.delimited {l : List Char} (h : Before false l) (rest : List Char) : Delimited (l ++ rest) := by
  cases h with
  | next hb _ =>
    rw [List.append_assoc]
    exact hb.delimited.append (delimited_cons (by simp) _)

theorem Entries.delimited {es : List Entry} {s : List Char} (h : Entries false es s) (rest : List Char) :
    Delimited (s ++ '}' :: rest) := by
  cases h with
  | nil hb => exact hb.delimited.append (delimited_cons (by simp) rest)
  | cons hl _ _ =>
    rw [List.append_assoc]
    exact hl.delimited _

theorem readMembers_sound {p : Members} {first : Bool} {s rest : List Char} {info : TxInfo}
    (h : readMembers p first s = .ok (info, rest)) :
    ∃ es raw, Entries first es raw ∧ (∃ q, RecordsAll p es q ∧ q.finish = .ok info) ∧ s = raw ++ '}' :: rest := by
  fun_induction readMembers p first s with
  | case1 => cases h
  | case2 p first s t hkey =>
    obtain ⟨info', hfinish, heq⟩ := Outcome.map_eq_ok_iff.1 h
    cases heq
    rcases nextKey_sound hkey with ⟨-, b, hb, rfl⟩ | ⟨_, _, _, hsome, -⟩
    · exact ⟨[], b, .nil hb, ⟨p, .nil, hfinish⟩, rfl⟩
    · cases hsome
  | case3 => cases h
  | case4 p first s key t hkey q more hmember ih =>
    rcases nextKey_sound hkey with ⟨hnone, -⟩ | ⟨text, l, raw, hsome, hl, hraw, rfl⟩
    · cases hnone
    · cases hsome
      obtain ⟨b, b', v, hb, hb', hv, he, rfl⟩ := readMember_sound hmember
      obtain ⟨es, raw', hes, ⟨r, hr, hfinish⟩, rfl⟩ := ih h
      exact ⟨_, _, .cons hl (.mk hraw hb hb' hv) hes, ⟨r, .cons he hr, hfinish⟩, by simp⟩

theorem readMembers_end {p : Members} {first : Bool} {s rest : List Char} (h : nextKey first s = .ok (none, rest)) :
    readMembers p first s = p.finish.map fun info => (info, rest) := by
  rw [readMembers]
  split <;> simp_all

theorem readMembers_error {p : Members} {first : Bool} {s : List Char} {e : Error} (h : nextKey first s = .error e) :
    readMembers p first s = .error e := by
  rw [readMembers]
  split <;> simp_all

theorem readMembers_next {p q : Members} {first : Bool} {key s t rest : List Char}
    (hkey : nextKey first s = .ok (some key, t)) (hmember : readMember p key t = .ok (q, rest)) :
    readMembers p first s = readMembers q false rest := by
  conv => lhs; rw [readMembers]
  split <;> grind

theorem readMembers_complete {first : Bool} {es : List Entry} {s : List Char} (h : Entries first es s) {p q : Members}
    {info : TxInfo} (hq : RecordsAll p es q) (hinfo : q.finish = .ok info) (rest : List Char) :
    readMembers p first (s ++ '}' :: rest) = .ok (info, rest) := by
  induction h generalizing p with
  | nil hb =>
    cases hq
    rw [readMembers_end (nextKey_end hb rest), hinfo]
    rfl
  | @cons first e es l s t hl he hes ih =>
    cases hq with
    | cons hrecords hq =>
      cases he with
      | @mk name raw b b' v hraw hb hb' hv =>
        have hkey := nextKey_complete hl hraw (b ++ ':' :: (b' ++ (v ++ (t ++ '}' :: rest))))
        have hmember := readMember_complete hrecords hb hb' hv (hes.delimited rest)
        simp only [List.append_assoc, List.cons_append]
        rw [readMembers_next hkey hmember]
        exact ih hq

/-! ### One text, one object -/

/-- A value is told apart from the blanks before it and from what follows it. -/
theorem Written.unique {b b' v w s t : List Char} (hb : Blank b) (hb' : Blank b') (hv : Written .value v)
    (hw : Written .value w) (hs : Delimited s) (ht : Delimited t) (h : b ++ (v ++ s) = b' ++ (w ++ t)) :
    v = w ∧ s = t := by
  obtain ⟨c, v', hv', hc, -⟩ := hv.head s hs
  obtain ⟨d, w', hw', hd, -⟩ := hw.head t ht
  have hvs := skipBlanks_append_cons hb hc v'
  have hwt := skipBlanks_append_cons hb' hd w'
  rw [← hv'] at hvs
  rw [← hw', ← h, hvs] at hwt
  have hskip := skip_complete .nil hv hs
  rw [hwt] at hskip
  have hst := Except.ok.inj ((skip_complete .nil hw ht).symm.trans hskip)
  rw [hst] at hwt
  exact ⟨List.append_cancel_right hwt, hst.symm⟩

theorem Entries.unique {first : Bool} {es es' : List Entry} {s s' rest rest' : List Char} (h : Entries first es s)
    (h' : Entries first es' s') (heq : s ++ '}' :: rest = s' ++ '}' :: rest') : es = es' := by
  induction h generalizing es' s' with
  | @nil first b hb =>
    have hend : nextKey first (b ++ '}' :: rest) = .ok (none, rest) := nextKey_end hb rest
    cases h' with
    | nil => rfl
    | cons hl he _ =>
      cases he with
      | mk hraw _ _ _ =>
        simp only [heq, List.append_assoc, List.cons_append, nextKey_complete hl hraw] at hend
        cases hend
  | @cons first e es l s t hl he hes ih =>
    cases he with
    | @mk name raw b b' v hraw hb hb' hv =>
      have hkey := nextKey_complete hl hraw (b ++ ':' :: (b' ++ (v ++ (t ++ '}' :: rest))))
      simp only [List.append_assoc, List.cons_append] at heq
      rw [heq] at hkey
      cases h' with
      | nil hb =>
        rw [nextKey_end hb] at hkey
        cases hkey
      | cons hl' he' hes' =>
        cases he' with
        | mk hraw' hb₁ hb₁' hv' =>
          simp only [List.append_assoc, List.cons_append, nextKey_complete hl' hraw'] at hkey
          obtain ⟨hname, hcolon⟩ := Prod.mk.inj (Except.ok.inj hkey)
          have hvalue := congrArg readColon hcolon
          rw [readColon_complete hb, readColon_complete hb₁] at hvalue
          obtain ⟨rfl, hrest⟩ := Written.unique hb₁' hb' hv' hv (hes'.delimited rest') (hes.delimited rest)
            (Except.ok.inj hvalue)
          rw [Option.some.inj hname, ih hes' hrest.symm]

/-- The members of an object are determined by its text. -/
theorem ObjectText.unique {es es' : List Entry} {text : List Char} (h : ObjectText es text)
    (h' : ObjectText es' text) : es = es' := by
  cases h with
  | mk hb hes _ =>
    generalize heq : _ ++ '{' :: _ = text at h'
    cases h' with
    | mk hb' hes' _ =>
      have hskip := congrArg skipBlanks heq
      rw [skipBlanks_append_cons hb rfl, skipBlanks_append_cons hb' rfl] at hskip
      exact hes.unique hes' (List.cons.inj hskip).2

/-! ### Objects without blanks -/

/-- The text of a member without blanks, where its name needs no escapes. -/
def Entry.compact (e : Entry) : List Char :=
  '"' :: (e.name ++ '"' :: ':' :: e.value)

/-- The text of members that follow others, without blanks. -/
def compactRest (es : List Entry) : List Char :=
  es.flatMap fun e => ',' :: e.compact

/-- The text of an object without blanks. -/
def compactObject : List Entry → List Char
  | [] => ['{', '}']
  | e :: es => '{' :: (e.compact ++ (compactRest es ++ ['}']))

/-- A member whose name is spelled by itself. -/
structure Entry.Plain (e : Entry) : Prop where
  name : Spelling e.name e.name
  value : Written .value e.value

theorem Entry.Plain.text {e : Entry} (h : e.Plain) : e.Text e.compact :=
  .mk h.name .nil .nil h.value

theorem entries_compactRest {es : List Entry} (h : ∀ e ∈ es, e.Plain) : Entries false es (compactRest es) := by
  induction es with
  | nil => exact .nil .nil
  | cons e es ih =>
    rw [List.forall_mem_cons] at h
    exact .cons (.next .nil .nil) h.1.text (ih h.2)

theorem objectText_compact {es : List Entry} (h : ∀ e ∈ es, e.Plain) : ObjectText es (compactObject es) := by
  cases es with
  | nil => exact .mk .nil (.nil .nil) .nil
  | cons e es =>
    rw [List.forall_mem_cons] at h
    have hobject := ObjectText.mk .nil (.cons (.first .nil) h.1.text (entries_compactRest h.2)) .nil
    simpa [compactObject] using hobject

theorem Entry.Text.items {e : Entry} {s t : List Char} (h : e.Text s) (ht : Written (.rest .object) t) :
    Written (.items .object) (s ++ t) := by
  cases h with
  | mk hraw hb hb' hv =>
    have hitem := Written.item (.object .nil hraw.quotable hb) hb' hv ht
    simpa using hitem

/-- Members that are found in an object are written by the grammar. -/
theorem Entries.written {es : List Entry} {s : List Char} (h : Entries false es s) : Written (.rest .object) s := by
  generalize hfirst : false = first at h
  induction h with
  | nil hb => exact .last hb
  | cons hl he _ ih =>
    subst hfirst
    cases hl with
    | next hb hb' =>
      rw [List.append_assoc, List.cons_append]
      exact .next hb (.items_after hb' (he.items (ih rfl)))

end Payout.Json
