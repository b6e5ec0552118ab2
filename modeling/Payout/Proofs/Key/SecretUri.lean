import Payout.Key.KeyPair

/-!
# Secret URIs by their grammar

A text is read as a secret URI exactly when it is written from parts that the grammar allows, and is cut into
just these parts, of which there is one choice only. What is cut at the slashes are fields: the phrase, a field
for each soft junction, an empty one and another for each hard junction, and two empty ones before those of the
password. The key of a seed depends on the parts alone.
-/
namespace Payout.Key
namespace SecretUri

/-- The fields that follow the phrase. -/
def pathFields (password : Option (List Char)) : List Junction → List (List Char)
  | [] => password.elim [] fun password => [] :: [] :: Text.splitOn '/' password
  | j :: junctions =>
    if j.hard then [] :: j.name :: pathFields password junctions
    else j.name :: pathFields password junctions

section Fields

variable {password : Option (List Char)} {junctions : List Junction}

theorem join_pathFields (phrase : List Char) (junctions : List Junction) (password : Option (List Char)) :
    Text.join '/' (phrase :: pathFields password junctions) = render ⟨phrase, junctions, password⟩ := by
  induction junctions generalizing phrase with
  | nil =>
    cases password with
    | none => simp [pathFields, Text.join, render]
    | some password =>
      have hpassword := Text.join_cons '/' [] (Text.splitOn_ne_nil '/' password)
      rw [Text.join_splitOn] at hpassword
      simp [pathFields, Text.join_cons, hpassword, render]
  | cons j junctions ih =>
    obtain ⟨hard, name⟩ := j
    have hne (field : List Char) : field :: pathFields password junctions ≠ [] := List.cons_ne_nil _ _
    cases hard with
    | false =>
      change Text.join '/' (phrase :: name :: pathFields password junctions) = _
      rw [Text.join_cons '/' phrase (hne name), ih name]
      simp [render, Junction.written]
    | true =>
      change Text.join '/' (phrase :: [] :: name :: pathFields password junctions) = _
      rw [Text.join_cons '/' phrase (List.cons_ne_nil _ _), Text.join_cons '/' [] (hne name), ih name]
      simp [render, Junction.written]

theorem name_mem_pathFields {j : Junction} (h : j ∈ junctions) : j.name ∈ pathFields password junctions := by
  induction junctions with
  | nil => cases h
  | cons first junctions ih =>
    unfold pathFields
    rcases List.mem_cons.mp h with rfl | h
    · split <;> simp
    · split <;> simp [ih h]

theorem slash_notMem_pathFields (h : ∀ j ∈ junctions, '/' ∉ j.name) :
    ∀ field ∈ pathFields password junctions, '/' ∉ field := by
  induction junctions with
  | nil =>
    cases password with
    | none => simp [pathFields]
    | some password =>
      intro field hfield
      rcases List.mem_cons.mp hfield with rfl | hfield
      · simp
      · rcases List.mem_cons.mp hfield with rfl | hfield
        · simp
        · exact Text.separator_notMem_splitOn hfield
  | cons j junctions ih =>
    obtain ⟨hj, hjunctions⟩ := List.forall_mem_cons.mp h
    have hrest := ih hjunctions
    unfold pathFields
    split
    · simpa [hj] using hrest
    · simpa [hj] using hrest

theorem parsePath_pathFields (hnames : ∀ j ∈ junctions, j.name ≠ [])
    (hpassword : ∀ text ∈ password, '\n' ∉ text) :
    parsePath (pathFields password junctions) = some (junctions, password) := by
  induction junctions with
  | nil =>
    cases password with
    | none => rfl
    | some password =>
      have hline : '\n' ∉ password := hpassword password rfl
      have hjoin := Text.join_splitOn '/' password
      cases hsplit : Text.splitOn '/' password with
      | nil => exact absurd hsplit (Text.splitOn_ne_nil '/' password)
      | cons field fields =>
        rw [hsplit] at hjoin
        simp [pathFields, hsplit, parsePath, hjoin, hline]
  | cons j junctions ih =>
    obtain ⟨hj, hjunctions⟩ := List.forall_mem_cons.mp hnames
    obtain ⟨hard, name⟩ := j
    have hrest := ih hjunctions
    cases name with
    | nil => exact absurd rfl hj
    | cons c name => cases hard <;> simp [pathFields, parsePath, hrest]

theorem prepend_eq_some_iff {path : Option (List Junction × Option (List Char))} {j : Junction} :
    (do let (rest, password) ← path; return (j :: rest, password)) = some (junctions, password) ↔
      ∃ rest, path = some (rest, password) ∧ j :: rest = junctions := by
  cases path with
  | none => simp
  | some parts =>
    obtain ⟨rest, other⟩ := parts
    constructor
    · intro h
      obtain ⟨rfl, rfl⟩ := Prod.mk.inj (Option.some.inj h)
      exact ⟨rest, rfl, rfl⟩
    · rintro ⟨rest, h, rfl⟩
      obtain ⟨rfl, rfl⟩ := Prod.mk.inj (Option.some.inj h)
      rfl

theorem ne_nil_of_fields {name : List Char} {fields : List (List Char)} (hnil : name = [] → fields ≠ [])
    (hcons : ∀ field rest, name = [] → fields ≠ field :: rest) : name ≠ [] := by
  intro hempty
  cases fields with
  | nil => exact hnil hempty rfl
  | cons field rest => exact hcons field rest hempty rfl

/-- Fields are read as a path only when they are those of the path, and its parts are well formed. -/
theorem eq_pathFields_of_parsePath {fields : List (List Char)} (hfields : ∀ field ∈ fields, '/' ∉ field)
    (h : parsePath fields = some (junctions, password)) :
    fields = pathFields password junctions ∧ (∀ j ∈ junctions, j.name ≠ []) ∧
      ∀ text ∈ password, '\n' ∉ text := by
  -- The last two cases are those of a hard and of a soft junction.
  fun_induction parsePath fields generalizing junctions password with
  | case1 =>
    obtain ⟨rfl, rfl⟩ := Prod.mk.inj (Option.some.inj h)
    exact ⟨rfl, by simp, by simp⟩
  | case2 => cases h
  | case3 => cases h
  | case4 field fields text =>
    rename_i hline
    -- The password was put together from the fields that are left, and cutting it gives them again.
    have hrest : ∀ f ∈ field :: fields, '/' ∉ f := fun f hf =>
      hfields f (List.mem_cons_of_mem _ (List.mem_cons_of_mem _ hf))
    have hsplit : Text.splitOn '/' text = field :: fields := Text.splitOn_join (List.cons_ne_nil _ _) hrest
    obtain ⟨rfl, rfl⟩ := Prod.mk.inj (Option.some.inj h)
    refine ⟨?_, by simp, ?_⟩
    · rw [pathFields, Option.elim_some, hsplit]
    · intro other hother
      obtain rfl := Option.some.inj hother
      exact hline
  | case5 => cases h
  | case6 name fields hnil hcons ih =>
    obtain ⟨rest, hpath, rfl⟩ := prepend_eq_some_iff.mp h
    obtain ⟨hrest, hnames, hpassword⟩ := ih (fun f hf => hfields f (by simp [hf])) hpath
    have hname : name ≠ [] := ne_nil_of_fields hnil hcons
    exact ⟨by rw [hrest]; rfl, List.forall_mem_cons.mpr ⟨hname, hnames⟩, hpassword⟩
  | case7 name fields _ _ hnil hcons ih =>
    obtain ⟨rest, hpath, rfl⟩ := prepend_eq_some_iff.mp h
    obtain ⟨hrest, hnames, hpassword⟩ := ih (fun f hf => hfields f (by simp [hf])) hpath
    have hname : name ≠ [] := ne_nil_of_fields hnil hcons
    exact ⟨by rw [hrest]; rfl, List.forall_mem_cons.mpr ⟨hname, hnames⟩, hpassword⟩

end Fields

theorem slash_notMem_of_phrase {phrase : List Char} (h : ∀ c ∈ phrase, isPhraseChar c = true) :
    '/' ∉ phrase :=
  fun hmem => absurd (h _ hmem) (by decide +kernel)

/-- Reading and writing agree: a text is read as the parts that it is written from, and as nothing else. -/
theorem parse_eq_some_iff {text : List Char} {uri : SecretUri} :
    parse text = some uri ↔ uri.Valid ∧ uri.render = text := by
  constructor
  · intro h
    have hjoin := Text.join_splitOn '/' text
    have hslash {field : List Char} (hf : field ∈ Text.splitOn '/' text) : '/' ∉ field :=
      Text.separator_notMem_splitOn hf
    unfold parse at h
    split at h
    · cases h
    · rename_i phrase fields hsplit
      split at h
      · rename_i hphrase
        rw [hsplit] at hjoin hslash
        cases hpath : parsePath fields with
        | none => simp [hpath] at h
        | some parts =>
          obtain ⟨junctions, password⟩ := parts
          obtain rfl : uri = ⟨phrase, junctions, password⟩ := by simpa [hpath, eq_comm] using h
          have hfields : ∀ field ∈ fields, '/' ∉ field := fun f hf => hslash (by simp [hf])
          obtain ⟨rfl, hnames, hpassword⟩ := eq_pathFields_of_parsePath hfields hpath
          refine ⟨⟨List.all_eq_true.mp hphrase, fun j hj => ?_, hpassword⟩, ?_⟩
          · exact ⟨hnames j hj, hfields _ (name_mem_pathFields hj)⟩
          · rw [← join_pathFields, hjoin]
      · cases h
  · intro h
    obtain ⟨⟨hphrase, hnames, hpassword⟩, rfl⟩ := h
    obtain ⟨phrase, junctions, password⟩ := uri
    have hfields : ∀ field ∈ phrase :: pathFields password junctions, '/' ∉ field :=
      List.forall_mem_cons.mpr ⟨slash_notMem_of_phrase hphrase,
        slash_notMem_pathFields fun j hj => (hnames j hj).2⟩
    have hsplit := Text.splitOn_join (List.cons_ne_nil _ _) hfields
    have hpath : parsePath (pathFields password junctions) = some (junctions, password) :=
      parsePath_pathFields (fun j hj => (hnames j hj).1) hpassword
    rw [join_pathFields] at hsplit
    have hall : phrase.all isPhraseChar = true := List.all_eq_true.mpr hphrase
    simp only [parse, hsplit, hall, if_true, hpath]
    rfl

theorem render_injective {uri other : SecretUri} (h : uri.Valid) (hother : other.Valid)
    (heq : other.render = uri.render) : other = uri := by
  have hread : parse uri.render = some uri := parse_eq_some_iff.mpr ⟨h, rfl⟩
  have hreadOther : parse uri.render = some other := parse_eq_some_iff.mpr ⟨hother, heq⟩
  exact Option.some.inj (hreadOther.symm.trans hread)

end SecretUri

namespace KeyPair
open SecretUri

theorem ofUri_eq (uri : SecretUri) :
    ofUri uri = (root (if uri.phrase = [] then developmentPhrase else uri.phrase)
      (uri.password.getD [])).map (uri.junctions.foldl derive) := by
  simp only [ofUri]
  cases root (if uri.phrase = [] then developmentPhrase else uri.phrase) (uri.password.getD []) <;> rfl

theorem ofUri_ne_invalidFormat (uri : SecretUri) : ofUri uri ≠ .error .invalidFormat := by
  rw [ofUri_eq]
  unfold root
  split
  · split <;> simp [Except.map]
  · split <;> simp [Except.map]

theorem ofSeed_of_render {seed : String} {uri : SecretUri} (h : uri.Valid) (htext : uri.render = seed.toList) :
    ofSeed seed = ofUri uri := by
  rw [ofSeed, parse_eq_some_iff.mpr ⟨h, htext⟩]

theorem ofSeed_eq_invalidFormat_iff (seed : String) :
    ofSeed seed = .error .invalidFormat ↔ ¬ ∃ uri : SecretUri, uri.Valid ∧ uri.render = seed.toList := by
  constructor
  · rintro h ⟨uri, hvalid, htext⟩
    rw [ofSeed_of_render hvalid htext] at h
    exact ofUri_ne_invalidFormat uri h
  · intro h
    cases hparse : parse seed.toList with
    | none => rw [ofSeed, hparse]
    | some uri => exact absurd ⟨uri, parse_eq_some_iff.mp hparse⟩ h

/-- The password of a secret in place of a phrase makes no difference. -/
theorem ofUri_password {uri : SecretUri} {digits : List Char} (h : uri.phrase = '0' :: 'x' :: digits)
    (password : Option (List Char)) : ofUri { uri with password := password } = ofUri uri := by
  simp only [ofUri_eq, h, reduceCtorEq, if_false, root]

theorem ofUri_developmentPhrase {uri : SecretUri} (h : uri.phrase = []) :
    ofUri { uri with phrase := developmentPhrase } = ofUri uri := by
  simp only [ofUri_eq, h, if_true, ite_self]

theorem isPhraseChar_developmentPhrase : ∀ c ∈ developmentPhrase, isPhraseChar c = true := by
  have hall : developmentPhrase.all isPhraseChar = true := by decide +kernel
  exact List.all_eq_true.mp hall

theorem valid_developmentPhrase {uri : SecretUri} (h : uri.Valid) :
    { uri with phrase := developmentPhrase }.Valid where
  phrase := isPhraseChar_developmentPhrase
  names := h.names
  password := h.password

/-- A seed that is not written by the grammar is refused for its format, and no other is. Of the others the parts
are unique, and the junctions lead from the root key of phrase and password to the key. -/
theorem ofSeed_by_grammar (seed : String) :
    (ofSeed seed = .error .invalidFormat ↔ ¬ ∃ uri : SecretUri, uri.Valid ∧ uri.render = seed.toList) ∧
    ∀ uri : SecretUri, uri.Valid → uri.render = seed.toList →
      parse seed.toList = some uri ∧
      (∀ other : SecretUri, other.Valid → other.render = seed.toList → other = uri) ∧
      ofSeed seed = (root (if uri.phrase = [] then developmentPhrase else uri.phrase)
        (uri.password.getD [])).map (uri.junctions.foldl derive) ∧
      (uri.phrase = [] → ofSeed (String.ofList developmentPhrase ++ seed) = ofSeed seed) ∧
      ∀ digits, uri.phrase = '0' :: 'x' :: digits → ∀ password : Option (List Char),
        (∀ text ∈ password, '\n' ∉ text) →
        ofSeed (String.ofList { uri with password := password }.render) = ofSeed seed := by
  refine ⟨ofSeed_eq_invalidFormat_iff seed, fun uri h htext => ⟨?_, ?_, ?_, ?_, ?_⟩⟩
  · exact parse_eq_some_iff.mpr ⟨h, htext⟩
  · intro other hother hother'
    exact render_injective h hother (hother'.trans htext.symm)
  · rw [ofSeed_of_render h htext, ofUri_eq]
  · intro hphrase
    have hdevelopment : { uri with phrase := developmentPhrase }.render =
        (String.ofList developmentPhrase ++ seed).toList := by
      rw [String.toList_append, ← htext]
      simp [render, hphrase]
    rw [ofSeed_of_render (valid_developmentPhrase h) hdevelopment, ofSeed_of_render h htext,
      ofUri_developmentPhrase hphrase]
  · intro digits hdigits password hpassword
    have hother : { uri with password := password }.Valid := ⟨h.phrase, h.names, hpassword⟩
    rw [ofSeed_of_render hother (by simp), ofSeed_of_render h htext, ofUri_password hdigits]

theorem ofSeed_by_grammar_paths :
    ofSeed "//" = .error .invalidFormat ∧
    ofSeed "//Alice/a///p//q" = (root developmentPhrase "p//q".toList).map
      ([⟨true, "Alice".toList⟩, ⟨false, "a".toList⟩].foldl derive) ∧
    ofSeed (String.ofList developmentPhrase ++ "//Alice/a///p//q") = ofSeed "//Alice/a///p//q" ∧
    ofSeed "0xe5be9a5092b81bca64be81d212e7f2f9eba183bb7a90954f7b76361f6edb5c0a///p" =
      ofSeed "0xe5be9a5092b81bca64be81d212e7f2f9eba183bb7a90954f7b76361f6edb5c0a" := by
  have hempty : parse "//".toList = none := by decide +kernel
  have hpath : parse "//Alice/a///p//q".toList =
      some ⟨[], [⟨true, "Alice".toList⟩, ⟨false, "a".toList⟩], some "p//q".toList⟩ := by decide +kernel
  have hsecret : parse "0xe5be9a5092b81bca64be81d212e7f2f9eba183bb7a90954f7b76361f6edb5c0a".toList =
      some ⟨"0xe5be9a5092b81bca64be81d212e7f2f9eba183bb7a90954f7b76361f6edb5c0a".toList, [], none⟩ := by
    decide +kernel
  obtain ⟨hvalid, hrender⟩ := parse_eq_some_iff.mp hpath
  obtain ⟨hvalidSecret, hrenderSecret⟩ := parse_eq_some_iff.mp hsecret
  obtain ⟨-, -, hkey, hphrase, -⟩ := (ofSeed_by_grammar _).2 _ hvalid hrender
  obtain ⟨-, -, -, -, hpassword⟩ := (ofSeed_by_grammar _).2 _ hvalidSecret hrenderSecret
  refine ⟨(ofSeed_by_grammar _).1.mpr ?_, hkey, hphrase rfl, ?_⟩
  · rintro ⟨uri, huri⟩
    rw [parse_eq_some_iff.mpr huri] at hempty
    cases hempty
  · exact hpassword "e5be9a5092b81bca64be81d212e7f2f9eba183bb7a90954f7b76361f6edb5c0a".toList (by decide +kernel)
      (some "p".toList) (by decide +kernel)

end KeyPair
end Payout.Key
