import Mathlib.Data.List.Nodup
import Payout.Proofs.Options.Value

/-!
# Settings on the command line

Arguments are read from left to right, and what they give is then taken over setting by setting. A configuration comes
out exactly when no setting is given twice and every text says something; it holds what the texts say, and the defaults
of all settings that are not given. So the order of the arguments makes no difference.
-/
namespace Payout.Options

/-- A setting and its value as one argument. -/
def Setting.written (s : Setting) (text : String) : String :=
  "--" ++ s.name ++ "=" ++ text

/-- The argument is about the setting, with the value in the same argument or not. -/
def Gives (argument : String) (s : Setting) : Prop :=
  argument = "--" ++ s.name ∨ ∃ text, argument = s.written text

/-- The setting that an argument is about. -/
def settingOf? (argument : String) : Option Setting :=
  match Argument.ofText argument.toList with
  | .long name _ => Setting.ofName? (String.ofList name)
  | _ => none

section Arguments

/-- A name without `=` stays whole. -/
theorem cutValue_append {name : List Char} (rest : List Char) (h : '=' ∉ name) :
    cutValue (name ++ rest) = (name ++ (cutValue rest).1, (cutValue rest).2) := by
  induction name with
  | nil => rfl
  | cons c name ih =>
    have hc : c ≠ '=' := fun hc => h (hc ▸ List.mem_cons_self)
    have hrest : '=' ∉ name := fun hmem => h (List.mem_cons_of_mem c hmem)
    rw [List.cons_append, cutValue, if_neg hc, ih hrest]
    rfl

theorem Argument.ofText_long {rest : List Char} (h : rest ≠ []) :
    ofText ('-' :: '-' :: rest) = .long (cutValue rest).1 (cutValue rest).2 := by
  cases rest with
  | nil => exact absurd rfl h
  | cons c rest => rfl

theorem Setting.equals_not_mem_name (s : Setting) : '=' ∉ s.name.toList := by
  cases s <;> decide

theorem Setting.name_ne_nil (s : Setting) : s.name.toList ≠ [] := by
  cases s <;> decide

theorem Setting.not_request (s : Setting) : Request.ofName? s.name.toList = none := by
  cases s <;> decide

theorem ofText_name_append (s : Setting) (rest : List Char) :
    Argument.ofText ('-' :: '-' :: (s.name.toList ++ rest)) =
      .long (s.name.toList ++ (cutValue rest).1) (cutValue rest).2 := by
  have hne : s.name.toList ++ rest ≠ [] := List.append_ne_nil_of_left_ne_nil s.name_ne_nil rest
  rw [Argument.ofText_long hne, cutValue_append rest s.equals_not_mem_name]

theorem ofText_name (s : Setting) : Argument.ofText ("--" ++ s.name).toList = .long s.name.toList none := by
  have htext : ("--" ++ s.name).toList = '-' :: '-' :: (s.name.toList ++ []) := by
    simp
  rw [htext, ofText_name_append, cutValue, List.append_nil]

theorem ofText_written (s : Setting) (text : String) :
    Argument.ofText (s.written text).toList = .long s.name.toList (some text.toList) := by
  have htext : (s.written text).toList = '-' :: '-' :: (s.name.toList ++ '=' :: text.toList) := by
    simp [Setting.written]
  rw [htext, ofText_name_append, cutValue, if_pos rfl, List.append_nil]

theorem settingOf?_of_gives {argument : String} {s : Setting} (h : Gives argument s) :
    settingOf? argument = some s := by
  unfold settingOf?
  rcases h with rfl | ⟨text, rfl⟩
  · simp only [ofText_name, String.ofList_toList, Setting.ofName?_name]
  · simp only [ofText_written, String.ofList_toList, Setting.ofName?_name]

theorem readArguments_written (s : Setting) (text : String) (rest : List String) :
    readArguments (s.written text :: rest) = (Given.mk s (some text)).andThen (readArguments rest) := by
  rw [readArguments.eq_def]
  simp only [ofText_written, Setting.not_request, String.ofList_toList, Setting.ofName?_name]

/-- Settings that are written with their values are read as they were written. -/
theorem readArguments_map_written (choices : List (Setting × String)) :
    readArguments (choices.map fun choice => choice.1.written choice.2) =
      .ok (choices.map fun choice => ⟨choice.1, some choice.2⟩) := by
  induction choices with
  | nil => rfl
  | cons choice rest ih =>
    rw [List.map_cons, List.map_cons, readArguments_written, ih]
    rfl

theorem settingOf?_of_long {argument : String} {name : List Char} {value : Option (List Char)}
    (h : Argument.ofText argument.toList = .long name value) :
    settingOf? argument = Setting.ofName? (String.ofList name) := by
  simp only [settingOf?, h]

theorem settingOf?_of_isValue {argument : String} (h : isValue argument = true) : settingOf? argument = none := by
  simp only [settingOf?, of_decide_eq_true h]

theorem Given.andThen_eq_ok_iff {g : Given} {rest : Except Error (List Given)} {given : List Given} :
    g.andThen rest = .ok given ↔ ∃ later, rest = .ok later ∧ g :: later = given :=
  Outcome.map_eq_ok_iff

/-- What is read are the settings that the arguments are about, in the same order. -/
theorem settings_of_readArguments {arguments : List String} {given : List Given}
    (h : readArguments arguments = .ok given) : given.map Given.setting = arguments.filterMap settingOf? := by
  fun_induction readArguments arguments generalizing given with
  | case1 =>
    obtain rfl := Except.ok.inj h
    rfl
  | case2 argument hescape =>
    obtain rfl := Except.ok.inj h
    simp only [List.filterMap_cons, settingOf?, hescape]
    rfl
  | case3 | case4 | case5 | case6 | case7 | case8 | case9 => cases h
  | case10 argument rest name hname s value hs hlong ih =>
    obtain ⟨later, hlater, rfl⟩ := Given.andThen_eq_ok_iff.mp h
    rw [List.map_cons, ih hlater, List.filterMap_cons_some ((settingOf?_of_long hlong).trans hs)]
  | case11 argument name hname s hs hlong =>
    obtain rfl := Except.ok.inj h
    rw [List.filterMap_cons_some ((settingOf?_of_long hlong).trans hs)]
    rfl
  | case12 argument name hname s hs next others hvalue hlong ih =>
    obtain ⟨later, hlater, rfl⟩ := Given.andThen_eq_ok_iff.mp h
    rw [List.map_cons, ih hlater, List.filterMap_cons_some ((settingOf?_of_long hlong).trans hs),
      List.filterMap_cons_none (settingOf?_of_isValue hvalue)]
  | case13 argument name hname s hs next others hvalue hlong ih =>
    obtain ⟨later, hlater, rfl⟩ := Given.andThen_eq_ok_iff.mp h
    rw [List.map_cons, ih hlater, List.filterMap_cons_some ((settingOf?_of_long hlong).trans hs)]

end Arguments

section Givens

variable {given : List Given} {settings : List Setting} {c c' : Config} {s : Setting}

theorem mem_settingsOf : s ∈ settingsOf given ↔ s ∈ given.map Given.setting := by
  induction given with
  | nil => simp [settingsOf]
  | cons g rest ih =>
    rw [settingsOf, List.map_cons, List.mem_cons, List.mem_cons, List.mem_filter, ih, decide_eq_true_iff]
    by_cases hs : s = g.setting
    · simp [hs]
    · simp [hs]

theorem nodup_settingsOf (given : List Given) : (settingsOf given).Nodup := by
  induction given with
  | nil => exact List.nodup_nil
  | cons g rest ih =>
    rw [settingsOf, List.nodup_cons]
    exact ⟨by simp, ih.filter _⟩

theorem timesGiven_eq_count : timesGiven s given = (given.map Given.setting).count s := by
  simp [timesGiven, List.count, List.countP_map, Function.comp_def, beq_eq_decide]

/-- The one place where a setting is given. -/
theorem filter_eq_singleton_iff {g : Given} :
    given.filter (·.setting = s) = [g] ↔ timesGiven s given ≤ 1 ∧ g ∈ given ∧ g.setting = s := by
  have hmem : g ∈ given.filter (·.setting = s) ↔ g ∈ given ∧ g.setting = s := by
    rw [List.mem_filter, decide_eq_true_iff]
  rw [timesGiven, List.countP_eq_length_filter, ← hmem]
  cases given.filter (·.setting = s) with
  | nil => simp
  | cons first rest =>
    cases rest with
    | nil => simp [eq_comm]
    | cons second rest => simp

theorem nodup_iff_timesGiven_le_one : (given.map Given.setting).Nodup ↔ ∀ s, timesGiven s given ≤ 1 := by
  simp only [List.nodup_iff_count_le_one, timesGiven_eq_count]

/-- A setting is taken over when it is given once, with a value that it accepts. -/
theorem apply_eq_ok_iff : apply given c s = .ok c' ↔
    ∃ text, given.filter (·.setting = s) = [⟨s, some text⟩] ∧ c.set s text = .ok c' := by
  have hsetting : ∀ g ∈ given.filter (·.setting = s), g.setting = s := by simp
  unfold apply
  rw [valuesOf, timesGiven, List.countP_eq_length_filter]
  revert hsetting
  generalize given.filter (·.setting = s) = found
  intro hsetting
  match found with
  | [] => simp
  | [⟨other, none⟩] => simp
  | [⟨other, some text⟩] =>
    have hother : other = s := by simpa using hsetting
    subst hother
    simp [Outcome.mapError_eq_ok_iff]
  | first :: second :: rest =>
    have hmore : 1 < (first :: second :: rest).length := by simp
    simp only [if_pos hmore]
    refine iff_of_false (fun h => ?_) (by simp)
    split at h
    · cases h
    · obtain ⟨d, -, hd⟩ := Outcome.bind_eq_ok_iff.mp h
      cases hd

/-- Each of the settings is given once, and set to what is said then. -/
theorem foldlM_apply_eq_ok_iff (hnodup : settings.Nodup) : settings.foldlM (apply given) c = .ok c' ↔
    (∀ s ∈ settings, ∃ text, given.filter (·.setting = s) = [⟨s, some text⟩] ∧ s.kind.Says text (c'.get s)) ∧
      ∀ s ∉ settings, c'.get s = c.get s := by
  induction settings generalizing c with
  | nil =>
    rw [List.foldlM_nil]
    constructor
    · intro h
      obtain rfl := Except.ok.inj h
      simp
    · intro h
      rw [Config.ext_get fun s => h.2 s List.not_mem_nil]
      rfl
  | cons first rest ih =>
    obtain ⟨hfirst, hrest⟩ := List.nodup_cons.mp hnodup
    simp only [List.foldlM_cons, Outcome.bind_eq_ok_iff, apply_eq_ok_iff, ih hrest, Config.set_eq_ok_iff,
      List.mem_cons, forall_eq_or_imp, not_or]
    constructor
    · rintro ⟨d, ⟨text, hgiven, hvalue, hothers⟩, hset, hleft⟩
      refine ⟨⟨⟨text, hgiven, ?_⟩, hset⟩, fun s hs => ?_⟩
      · rwa [hleft first hfirst]
      · rw [hleft s hs.2, hothers s hs.1]
    · rintro ⟨⟨⟨text, hgiven, hvalue⟩, hset⟩, hleft⟩
      have hput : (c.put first (c'.get first)).get first = c'.get first := Config.get_put_self c hvalue
      refine ⟨c.put first (c'.get first), ⟨text, hgiven, ?_, fun other hne => ?_⟩, hset, fun s hs => ?_⟩
      · rwa [hput]
      · exact Config.get_put_of_ne c _ hne
      · by_cases hne : s = first
        · rw [hne, hput]
        · rw [Config.get_put_of_ne c _ hne, hleft s ⟨hne, hs⟩]

/-- The settings are given once and with a value each. -/
theorem given_once_iff {P : Setting → String → Prop} :
    (∀ s ∈ given.map Given.setting, ∃ text, given.filter (·.setting = s) = [⟨s, some text⟩] ∧ P s text) ↔
      (given.map Given.setting).Nodup ∧ ∀ g ∈ given, ∃ text, g.value = some text ∧ P g.setting text := by
  rw [nodup_iff_timesGiven_le_one]
  constructor
  · intro h
    constructor
    · intro s
      by_cases hs : s ∈ given.map Given.setting
      · obtain ⟨text, honly, -⟩ := h s hs
        exact (filter_eq_singleton_iff.mp honly).1
      · rw [timesGiven_eq_count, List.count_eq_zero_of_not_mem hs]
        exact Nat.zero_le 1
    · intro g hg
      obtain ⟨text, honly, htext⟩ := h g.setting (List.mem_map_of_mem hg)
      have hmem : g ∈ given.filter (·.setting = g.setting) := by simpa using hg
      rw [honly, List.mem_singleton] at hmem
      exact ⟨text, congrArg Given.value hmem, htext⟩
  · rintro ⟨honce, hvalues⟩ s hs
    obtain ⟨⟨s, value⟩, hg, rfl⟩ := List.mem_map.mp hs
    obtain ⟨text, rfl, htext⟩ := hvalues _ hg
    exact ⟨text, filter_eq_singleton_iff.mpr ⟨honce s, hg, rfl⟩, htext⟩

theorem exists_of_unfinished (h : unfinished given = some s) : ∃ g ∈ given, g.value = none := by
  unfold unfinished at h
  split at h
  · rename_i hlast
    exact ⟨_, List.mem_of_getLast? hlast, rfl⟩
  · cases h

theorem ofGiven_eq_foldlM (h : ∀ g ∈ given, ∃ text, g.value = some text) :
    ofGiven given = (settingsOf given).foldlM (apply given) Config.default := by
  unfold ofGiven
  split
  · rename_i hunfinished
    obtain ⟨g, hg, hnone⟩ := exists_of_unfinished hunfinished
    obtain ⟨text, htext⟩ := h g hg
    rw [hnone] at htext
    cases htext
  · rfl

/-- A configuration comes out when no setting is given twice and every text says something. It is what the texts say,
and apart from that the default. -/
theorem ofGiven_eq_ok_iff : ofGiven given = .ok c ↔ (given.map Given.setting).Nodup ∧
    (∀ g ∈ given, ∃ text, g.value = some text ∧ g.setting.kind.Says text (c.get g.setting)) ∧
      ∀ s ∉ given.map Given.setting, c.get s = Config.default.get s := by
  have hfold : (settingsOf given).foldlM (apply given) Config.default = .ok c ↔
      (given.map Given.setting).Nodup ∧
        (∀ g ∈ given, ∃ text, g.value = some text ∧ g.setting.kind.Says text (c.get g.setting)) ∧
          ∀ s ∉ given.map Given.setting, c.get s = Config.default.get s := by
    rw [foldlM_apply_eq_ok_iff (nodup_settingsOf given), ← and_assoc]
    simp only [mem_settingsOf]
    rw [given_once_iff]
  rw [← hfold]
  constructor
  · intro h
    unfold ofGiven at h
    split at h
    · cases h
    · exact h
  · intro h
    rw [ofGiven_eq_foldlM, h]
    intro g hg
    obtain ⟨text, htext, -⟩ := (hfold.mp h).2.1 g hg
    exact ⟨text, htext⟩

/-- Each value that is given stands for something. -/
def Meaningful (given : List Given) : Prop :=
  ∀ g ∈ given, ∃ text, g.value = some text ∧ ∃ v, g.setting.kind.Says text v

theorem exists_foldlM_set {values : List String} (h : ∀ text ∈ values, ∃ v, s.kind.Says text v) (c : Config) :
    ∃ d, values.foldlM (fun c v => (c.set s v).mapError (Error.invalid s v)) c = .ok d := by
  induction values generalizing c with
  | nil => exact ⟨c, rfl⟩
  | cons text rest ih =>
    obtain ⟨v, hv⟩ := h text List.mem_cons_self
    have hset : c.set s text = .ok (c.put s v) := Config.set_eq_ok_iff_put.mpr ⟨v, hv, rfl⟩
    obtain ⟨d, hd⟩ := ih (fun later hlater => h later (List.mem_cons_of_mem text hlater)) (c.put s v)
    refine ⟨d, ?_⟩
    rw [List.foldlM_cons, hset]
    exact hd

/-- Among meaningful values nothing is wrong but that a setting is given too often. -/
theorem apply_of_meaningful (h : Meaningful given) (hs : s ∈ given.map Given.setting) (c : Config) :
    (∃ c', apply given c s = .ok c') ∨ 1 < timesGiven s given ∧ apply given c s = .error (.repeated s) := by
  have hvalues : ∀ text ∈ valuesOf s given, ∃ v, s.kind.Says text v := by
    intro text htext
    obtain ⟨g, hg, hvalue⟩ := List.mem_filterMap.mp htext
    obtain ⟨hmem, hsetting⟩ := List.mem_filter.mp hg
    obtain ⟨other, hother, hmeant⟩ := h g hmem
    rw [hvalue] at hother
    rwa [Option.some.inj hother, ← of_decide_eq_true hsetting]
  have hnonempty : valuesOf s given ≠ [] := by
    obtain ⟨g, hg, rfl⟩ := List.mem_map.mp hs
    obtain ⟨text, htext, -⟩ := h g hg
    have hmem : text ∈ valuesOf g.setting given :=
      List.mem_filterMap.mpr ⟨g, List.mem_filter.mpr ⟨hg, decide_eq_true rfl⟩, htext⟩
    exact List.ne_nil_of_mem hmem
  obtain ⟨d, hd⟩ := exists_foldlM_set hvalues c
  have happly : apply given c s = if 1 < timesGiven s given then .error (.repeated s) else .ok d := by
    unfold apply
    split
    · exact absurd ‹_› hnonempty
    · rw [hd]
      rfl
  rw [happly]
  by_cases hmore : 1 < timesGiven s given
  · exact .inr ⟨hmore, if_pos hmore⟩
  · exact .inl ⟨d, if_neg hmore⟩

theorem foldlM_apply_of_meaningful (h : Meaningful given) (hs : ∀ s ∈ settings, s ∈ given.map Given.setting)
    (c : Config) : (∃ c', settings.foldlM (apply given) c = .ok c') ∨
      ∃ s, 1 < timesGiven s given ∧ settings.foldlM (apply given) c = .error (.repeated s) := by
  induction settings generalizing c with
  | nil => exact .inl ⟨c, rfl⟩
  | cons first rest ih =>
    rw [List.foldlM_cons]
    rcases apply_of_meaningful h (hs first List.mem_cons_self) c with ⟨d, hd⟩ | ⟨hmore, herror⟩
    · rw [hd]
      exact ih (fun s hmem => hs s (List.mem_cons_of_mem first hmem)) d
    · rw [herror]
      exact .inr ⟨first, hmore, rfl⟩

theorem ofGiven_of_meaningful (h : Meaningful given) : (∃ c, ofGiven given = .ok c) ∨
    ∃ s, 1 < timesGiven s given ∧ ofGiven given = .error (.repeated s) := by
  have hvalues : ∀ g ∈ given, ∃ text, g.value = some text := by
    intro g hg
    obtain ⟨text, htext, -⟩ := h g hg
    exact ⟨text, htext⟩
  rw [ofGiven_eq_foldlM hvalues]
  exact foldlM_apply_of_meaningful h (fun s => mem_settingsOf.mp) Config.default

end Givens

section Results

variable {arguments : List String} {c : Config}

theorem parse_eq_ok_iff :
    parse arguments = .ok c ↔ ∃ given, readArguments arguments = .ok given ∧ ofGiven given = .ok c :=
  Outcome.bind_eq_ok_iff

/-- A configuration has values that the settings take. -/
theorem takes_of_parse (h : parse arguments = .ok c) (s : Setting) : s.kind.Takes (c.get s) := by
  obtain ⟨given, -, hgiven⟩ := parse_eq_ok_iff.mp h
  obtain ⟨-, hvalues, hdefault⟩ := ofGiven_eq_ok_iff.mp hgiven
  by_cases hs : s ∈ given.map Given.setting
  · obtain ⟨g, hg, rfl⟩ := List.mem_map.mp hs
    obtain ⟨text, -, htext⟩ := hvalues g hg
    exact htext.takes
  · rw [hdefault s hs]
    exact (Config.says_default s).takes

/-- No two arguments are about the same setting. -/
theorem nodup_of_parse (h : parse arguments = .ok c) : (arguments.filterMap settingOf?).Nodup := by
  obtain ⟨given, hread, hgiven⟩ := parse_eq_ok_iff.mp h
  rw [← settings_of_readArguments hread]
  exact (ofGiven_eq_ok_iff.mp hgiven).1

theorem parse_twice {a b : String} {s : Setting} (hab : [a, b].Sublist arguments) (ha : Gives a s)
    (hb : Gives b s) : ∃ e, parse arguments = .error e := by
  cases hparse : parse arguments with
  | error e => exact ⟨e, rfl⟩
  | ok c =>
    have hpair : ([a, b].filterMap settingOf?).Nodup := (nodup_of_parse hparse).sublist (hab.filterMap settingOf?)
    simp [settingOf?_of_gives ha, settingOf?_of_gives hb] at hpair

/-- Settings as arguments, in their order. -/
def commandLine (choices : List (Setting × String)) : List String :=
  choices.map fun choice => choice.1.written choice.2

variable {choices other : List (Setting × String)}

theorem parse_commandLine (choices : List (Setting × String)) :
    parse (commandLine choices) = ofGiven (choices.map fun choice => ⟨choice.1, some choice.2⟩) := by
  rw [parse, commandLine, readArguments_map_written]
  rfl

theorem parse_commandLine_eq_ok_iff : parse (commandLine choices) = .ok c ↔ (choices.map Prod.fst).Nodup ∧
    (∀ choice ∈ choices, choice.1.kind.Says choice.2 (c.get choice.1)) ∧
      ∀ s ∉ choices.map Prod.fst, c.get s = Config.default.get s := by
  rw [parse_commandLine, ofGiven_eq_ok_iff]
  simp only [List.map_map, Function.comp_def, List.forall_mem_map, Option.some.injEq, exists_eq_left']

/-- The order of the arguments makes no difference. -/
theorem parse_commandLine_perm (h : other.Perm choices) :
    parse (commandLine other) = .ok c ↔ parse (commandLine choices) = .ok c := by
  have hsettings := h.map Prod.fst
  simp only [parse_commandLine_eq_ok_iff, hsettings.nodup_iff, h.mem_iff, hsettings.mem_iff]

theorem parse_commandLine_of_meaningful (h : ∀ choice ∈ choices, ∃ v, choice.1.kind.Says choice.2 v) :
    (∃ c, parse (commandLine choices) = .ok c) ∨
      ∃ s, 1 < (choices.map Prod.fst).count s ∧ parse (commandLine choices) = .error (.repeated s) := by
  have hmeaningful : Meaningful (choices.map fun choice => ⟨choice.1, some choice.2⟩) := by
    intro g hg
    obtain ⟨choice, hchoice, rfl⟩ := List.mem_map.mp hg
    exact ⟨choice.2, rfl, h choice hchoice⟩
  have hcases := ofGiven_of_meaningful hmeaningful
  rw [← parse_commandLine] at hcases
  simpa only [timesGiven_eq_count, List.map_map, Function.comp_def] using hcases

/-- What becomes of settings that are written as arguments, in any order. -/
structure ReadBack (choices : List (Setting × String)) : Prop where
  /-- A configuration comes out when no setting is given twice and all texts say something. -/
  accepted : ∀ c, parse (commandLine choices) = .ok c ↔ (choices.map Prod.fst).Nodup ∧
    (∀ choice ∈ choices, choice.1.kind.Says choice.2 (c.get choice.1)) ∧
      ∀ s ∉ choices.map Prod.fst, c.get s = Config.default.get s
  /-- The configuration has exactly the values that were written. -/
  exact : ∀ value : Setting → Value, (choices.map Prod.fst).Nodup →
    (∀ choice ∈ choices, choice.1.kind.Says choice.2 (value choice.1)) →
      ∃ c, parse (commandLine choices) = .ok c ∧ (∀ s ∈ choices.map Prod.fst, c.get s = value s) ∧
        ∀ s ∉ choices.map Prod.fst, c.get s = Config.default.get s
  permuted : ∀ other : List (Setting × String), other.Perm choices →
    ∀ c, parse (commandLine other) = .ok c ↔ parse (commandLine choices) = .ok c
  repeated : ¬ (choices.map Prod.fst).Nodup → (∀ choice ∈ choices, ∃ v, choice.1.kind.Says choice.2 v) →
    ∃ s, 1 < (choices.map Prod.fst).count s ∧ parse (commandLine choices) = .error (.repeated s)

/-- What is true of all arguments. -/
structure Guarded (arguments : List String) : Prop where
  twice : ∀ a b s, [a, b].Sublist arguments → Gives a s → Gives b s → ∃ e, parse arguments = .error e
  taken : ∀ c, parse arguments = .ok c → ∀ s : Setting, s.kind.Takes (c.get s)
  batchSize : ∀ c, parse arguments = .ok c → 1 ≤ c.batchSize

theorem readBack (choices : List (Setting × String)) : ReadBack choices := by
  constructor
  case accepted => exact fun c => parse_commandLine_eq_ok_iff
  case exact =>
    intro value hnodup hvalues
    rcases parse_commandLine_of_meaningful fun choice hchoice => ⟨_, hvalues choice hchoice⟩ with
      ⟨c, hc⟩ | ⟨s, hmore, -⟩
    · obtain ⟨-, hread, hdefault⟩ := parse_commandLine_eq_ok_iff.mp hc
      refine ⟨c, hc, fun s hs => ?_, hdefault⟩
      obtain ⟨choice, hchoice, rfl⟩ := List.mem_map.mp hs
      exact (hread choice hchoice).unique (hvalues choice hchoice)
    · exact absurd (List.nodup_iff_count_le_one.mp hnodup s) (Nat.not_le_of_lt hmore)
  case permuted => exact fun other h c => parse_commandLine_perm h
  case repeated =>
    intro htwice hvalues
    rcases parse_commandLine_of_meaningful hvalues with ⟨c, hc⟩ | hrepeated
    · exact absurd (parse_commandLine_eq_ok_iff.mp hc).1 htwice
    · exact hrepeated

theorem guarded (arguments : List String) : Guarded arguments := by
  constructor
  case twice => exact fun a b s => parse_twice
  case taken => exact fun c => takes_of_parse
  case batchSize => exact fun c h => (takes_of_parse h .batchSize).1

theorem takes_iff_says {s : Setting} {v : Value} : s.kind.Takes v ↔ ∃ text, s.kind.Says text v := by
  constructor
  · intro h
    exact ⟨v.canonical, h.says_canonical⟩
  · rintro ⟨text, h⟩
    exact h.takes

/-- Settings are read back as they were written, in whatever order, and a configuration never has a value that its
setting does not take. There is a text for every value that is taken, and one of them for each default. -/
theorem commandLine_exact (choices : List (Setting × String)) (arguments : List String) :
    ReadBack choices ∧ Guarded arguments ∧
      (∀ (s : Setting) (v : Value), s.kind.Takes v ↔ ∃ text, s.kind.Says text v) ∧
        ∀ s : Setting, s.kind.Says s.default (Config.default.get s) :=
  ⟨readBack choices, guarded arguments, fun _ _ => takes_iff_says, Config.says_default⟩

example : parse ["--node=--a=b", "--batch-size=+007"] =
    .ok { Config.default with node := "--a=b", batchSize := 7 } := rfl

end Results

end Payout.Options
