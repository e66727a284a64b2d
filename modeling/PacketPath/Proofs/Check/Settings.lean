import PacketPath.Json.Codec
import PacketPath.Proofs.Json.Standard

set_option autoImplicit false

/-! # Two ways to configure a checker

Options are set one after the other from a list of keywords, or read together from an object. The
first way lets a later setting override an earlier one; the second way refuses to set an option
twice. Apart from that they are the same, on every list of settings and on every text of the object.
The first way is carried out here. The second way is up to a library, of which nothing is known but
that it is a documented one: it fills in defaults, and refuses fields that are unknown or given
twice.
-/

namespace PacketPath

open Json

/-! ## Settings, one after the other -/

/-- The value that settings give to a keyword last, if they do. -/
def lastValue (settings : List (String × Bool)) (keyword : String) : Option Bool :=
  settings.reverse.lookup keyword

namespace CheckConfig

/-- What is left of a configuration when a setting is attempted: one that is refused changes
nothing. -/
def attempt (config : CheckConfig) (setting : String × Bool) : CheckConfig :=
  match config.set setting.1 setting.2 with
  | .ok config => config
  | .error _ => config

/-- A configuration in which every option has the value that settings give it last. -/
def latest (config : CheckConfig) (settings : List (String × Bool)) : CheckConfig :=
  ⟨(lastValue settings "VERBOSE").getD config.verbose,
    (lastValue settings "DETAILS").getD config.details,
    (lastValue settings "CHECKSUM").getD config.checksum⟩

end CheckConfig

/-- Settings as the members of an object. -/
def settingMembers (settings : List (String × Bool)) : List (String × Datum) :=
  settings.map fun s => (s.1, .boolean s.2)

/-- Lists of settings that differ in the order of settings of different keywords. -/
inductive Reordered : List (String × Bool) → List (String × Bool) → Prop
  | refl (settings : List (String × Bool)) : Reordered settings settings
  | swap (a b : String × Bool) (rest : List (String × Bool)) : a.1 ≠ b.1 →
      Reordered (a :: b :: rest) (b :: a :: rest)
  | cons (a : String × Bool) {settings other : List (String × Bool)} :
      Reordered settings other → Reordered (a :: settings) (a :: other)
  | trans {first second third : List (String × Bool)} :
      Reordered first second → Reordered second third → Reordered first third

section

variable {settings other : List (String × Bool)} {setting a b : String × Bool}
  {config : CheckConfig} {keyword : String}

theorem mem_keywords : keyword ∈ CheckConfig.keywords
    ↔ keyword = "VERBOSE" ∨ keyword = "DETAILS" ∨ keyword = "CHECKSUM" := by
  simp only [CheckConfig.keywords, List.mem_cons, List.not_mem_nil, or_false]

theorem lastValue_cons (setting : String × Bool) (settings : List (String × Bool))
    (keyword : String) : lastValue (setting :: settings) keyword
      = (lastValue settings keyword).or (if setting.1 = keyword then some setting.2 else none) := by
  rw [lastValue, List.reverse_cons, List.lookup_append, lastValue]
  refine congrArg (Option.or _) ?_
  by_cases h : setting.1 = keyword
  · rw [if_pos h, List.lookup_cons, beq_iff_eq.mpr h.symm]
  · rw [if_neg h, List.lookup_cons, beq_eq_false_iff_ne.mpr (Ne.symm h)]
    rfl

namespace CheckConfig

/-- A setting gives its value to the option that it names, and to no other. -/
theorem attempt_eq (config : CheckConfig) (setting : String × Bool) : config.attempt setting
    = ⟨if setting.1 = "VERBOSE" then setting.2 else config.verbose,
      if setting.1 = "DETAILS" then setting.2 else config.details,
      if setting.1 = "CHECKSUM" then setting.2 else config.checksum⟩ := by
  obtain ⟨keyword, value⟩ := setting
  unfold attempt set
  simp only
  by_cases hv : keyword = "VERBOSE"
  · subst hv
    rfl
  · by_cases hd : keyword = "DETAILS"
    · subst hd
      rfl
    · by_cases hc : keyword = "CHECKSUM"
      · subst hc
        rfl
      · simp only [if_neg hv, if_neg hd, if_neg hc]

theorem set_of_mem (setting : String × Bool) (h : setting.1 ∈ keywords) :
    config.set setting.1 setting.2 = .ok (config.attempt setting) := by
  obtain ⟨keyword, value⟩ := setting
  rcases mem_keywords.mp h with hk | hk | hk
  all_goals
    simp only at hk
    subst hk
    rfl

theorem set_of_notMem (setting : String × Bool) (h : setting.1 ∉ keywords) :
    config.set setting.1 setting.2 = .error (.unknownOption setting.1) := by
  simp only [mem_keywords, not_or] at h
  obtain ⟨hv, hd, hc⟩ := h
  rw [set, if_neg hv, if_neg hd, if_neg hc]

theorem attempt_of_notMem (h : setting.1 ∉ keywords) : config.attempt setting = config := by
  rw [attempt, set_of_notMem setting h]

/-- **Settings that are attempted one after the other** leave every option with the last value that
was given to it. -/
theorem foldl_attempt (settings : List (String × Bool)) (config : CheckConfig) :
    settings.foldl attempt config = config.latest settings := by
  induction settings generalizing config with
  | nil => rfl
  | cons setting settings ih =>
      -- what the first setting gives counts where no later one gives anything
      have hvalue : ∀ (keyword : String) (old : Bool),
          (lastValue settings keyword).getD (if setting.1 = keyword then setting.2 else old)
            = (lastValue (setting :: settings) keyword).getD old := by
        intro keyword old
        rw [lastValue_cons]
        cases lastValue settings keyword with
        | some _ => rfl
        | none => split <;> rfl
      rw [List.foldl_cons, ih, attempt_eq]
      simp only [latest, hvalue]

/-- Settings that are refused leave no trace. -/
theorem foldl_attempt_filter (settings : List (String × Bool)) (config : CheckConfig) :
    (settings.filter (·.1 ∈ keywords)).foldl attempt config = settings.foldl attempt config := by
  induction settings generalizing config with
  | nil => rfl
  | cons setting settings ih =>
      by_cases h : setting.1 ∈ keywords
      · rw [List.filter_cons_of_pos (by simpa using h), List.foldl_cons, List.foldl_cons, ih]
      · rw [List.filter_cons_of_neg (by simpa using h), ih, List.foldl_cons, attempt_of_notMem h]

theorem setAll_eq_foldlM (settings : List (String × Bool)) (config : CheckConfig) :
    config.setAll settings = settings.foldlM (fun config s => config.set s.1 s.2) config := by
  induction settings generalizing config with
  | nil => rfl
  | cons setting settings ih =>
      obtain ⟨keyword, value⟩ := setting
      rw [setAll, List.foldlM_cons]
      cases config.set keyword value with
      | ok config => exact ih config
      | error e => rfl

/-- The settings are applied, or refused for the first keyword that is not known. -/
theorem setAll_eq (settings : List (String × Bool)) (config : CheckConfig) :
    config.setAll settings = match settings.find? (·.1 ∉ keywords) with
      | some setting => .error (.unknownOption setting.1)
      | none => .ok (config.latest settings) := by
  rw [← foldl_attempt]
  induction settings generalizing config with
  | nil => rfl
  | cons setting settings ih =>
      obtain ⟨keyword, value⟩ := setting
      rw [setAll]
      by_cases h : keyword ∈ keywords
      · rw [set_of_mem (keyword, value) h, List.find?_cons_of_neg (by simpa using h),
          List.foldl_cons]
        exact ih _
      · rw [set_of_notMem (keyword, value) h, List.find?_cons_of_pos (by simpa using h)]

theorem ofKeywords_eq_ok_iff (settings : List (String × Bool)) (config : CheckConfig) :
    ofKeywords settings = .ok config
      ↔ (∀ s ∈ settings, s.1 ∈ keywords) ∧ config = ({} : CheckConfig).latest settings := by
  have hnone : settings.find? (·.1 ∉ keywords) = none ↔ ∀ s ∈ settings, s.1 ∈ keywords := by
    simp only [List.find?_eq_none, decide_eq_true_eq, Decidable.not_not]
  rw [ofKeywords, setAll_eq, ← hnone]
  cases settings.find? (·.1 ∉ keywords) with
  | none => simp only [Except.ok.injEq, true_and, eq_comm]
  | some s => simp only [reduceCtorEq, false_and]

theorem ofKeywords_eq_error_iff (settings : List (String × Bool)) (e : ConfigError) :
    ofKeywords settings = .error e
      ↔ ∃ s, settings.find? (·.1 ∉ keywords) = some s ∧ e = .unknownOption s.1 := by
  rw [ofKeywords, setAll_eq]
  cases settings.find? (·.1 ∉ keywords) with
  | none => simp only [reduceCtorEq, false_and, exists_false]
  | some s => simp only [Except.error.injEq, Option.some.injEq, exists_eq_left', eq_comm]

/-- Two options can be set in either order. -/
theorem attempt_comm (h : a.1 ≠ b.1) :
    (config.attempt a).attempt b = (config.attempt b).attempt a := by
  have hswap : ∀ (keyword : String) (old : Bool),
      (if b.1 = keyword then b.2 else if a.1 = keyword then a.2 else old)
        = if a.1 = keyword then a.2 else if b.1 = keyword then b.2 else old := by
    intro keyword old
    by_cases ha : a.1 = keyword
    · rw [if_pos ha, if_pos ha, if_neg fun hb => h (ha.trans hb.symm)]
    · rw [if_neg ha, if_neg ha]
  simp only [attempt_eq, hswap]

end CheckConfig

/-! ## Reordering -/

namespace Reordered

theorem foldl_attempt (h : Reordered settings other) (config : CheckConfig) :
    settings.foldl CheckConfig.attempt config = other.foldl CheckConfig.attempt config := by
  induction h generalizing config with
  | refl _ => rfl
  | swap a b rest hne => simp only [List.foldl_cons, CheckConfig.attempt_comm hne]
  | cons a _ ih => exact ih _
  | trans _ _ ih ih' => exact (ih config).trans (ih' config)

theorem perm (h : Reordered settings other) : settings.Perm other := by
  induction h with
  | refl _ => exact .refl _
  | swap a b rest _ => exact .swap b a rest
  | cons a _ ih => exact ih.cons a
  | trans _ _ ih ih' => exact ih.trans ih'

theorem ofKeywords_eq_ok_iff (h : Reordered settings other) (config : CheckConfig) :
    CheckConfig.ofKeywords settings = .ok config ↔ CheckConfig.ofKeywords other = .ok config := by
  rw [CheckConfig.ofKeywords_eq_ok_iff, CheckConfig.ofKeywords_eq_ok_iff,
    ← CheckConfig.foldl_attempt, ← CheckConfig.foldl_attempt, h.foldl_attempt]
  simp only [h.perm.mem_iff]

/-- Settings that give each keyword once can be put in any order. -/
theorem of_perm (h : settings.Perm other) (hnodup : (settings.map (·.1)).Nodup) :
    Reordered settings other := by
  induction h with
  | nil => exact .refl _
  | cons a _ ih => exact .cons a (ih (List.nodup_cons.mp hnodup).2)
  | swap a b rest =>
      refine .swap b a rest fun he => (List.nodup_cons.mp hnodup).1 ?_
      exact List.mem_cons.mpr (.inl he)
  | trans h _ ih ih' => exact (ih hnodup).trans (ih' ((h.map _).nodup_iff.mp hnodup))

/-- Only which of several unknown keywords is named depends on the order. -/
theorem ofKeywords_eq (h : Reordered settings other)
    (hone : ∀ a ∈ settings, ∀ b ∈ settings, a.1 ∉ CheckConfig.keywords →
      b.1 ∉ CheckConfig.keywords → a.1 = b.1) :
    CheckConfig.ofKeywords settings = CheckConfig.ofKeywords other := by
  cases hok : CheckConfig.ofKeywords settings with
  | ok config => exact ((h.ofKeywords_eq_ok_iff config).mp hok).symm
  | error e =>
      cases hok' : CheckConfig.ofKeywords other with
      | ok config =>
          rw [(h.ofKeywords_eq_ok_iff config).mpr hok'] at hok
          cases hok
      | error e' =>
          obtain ⟨a, ha, rfl⟩ := (CheckConfig.ofKeywords_eq_error_iff _ _).mp hok
          obtain ⟨b, hb, rfl⟩ := (CheckConfig.ofKeywords_eq_error_iff _ _).mp hok'
          have hbmem : b ∈ settings := h.perm.mem_iff.mpr (List.mem_of_find?_eq_some hb)
          have hsame := hone a (List.mem_of_find?_eq_some ha) b hbmem
            (by simpa using List.find?_some ha) (by simpa using List.find?_some hb)
          rw [hsame]

end Reordered

end

/-! ## Settings in an object -/

section

variable {settings : List (String × Bool)}

/-- Where every keyword is given once, its only value is the last one. -/
theorem lastValue_eq_lookup (h : (settings.map (·.1)).Nodup) (keyword : String) :
    lastValue settings keyword = settings.lookup keyword := by
  induction settings with
  | nil => rfl
  | cons setting settings ih =>
      obtain ⟨hnew, hnodup⟩ := List.nodup_cons.mp h
      rw [lastValue_cons, ih hnodup, List.lookup_cons]
      by_cases hk : setting.1 = keyword
      · have hnone : settings.lookup keyword = none := by
          refine List.lookup_eq_none_iff.mpr fun s hs => bne_iff_ne.mpr fun he => hnew ?_
          exact List.mem_map.mpr ⟨s, hs, he.symm.trans hk.symm⟩
        rw [hnone, if_pos hk, beq_iff_eq.mpr hk.symm]
        rfl
      · rw [if_neg hk, beq_eq_false_iff_ne.mpr (Ne.symm hk), Option.or_none]

theorem lookup_settingMembers (settings : List (String × Bool)) (keyword : String) :
    (settingMembers settings).lookup keyword = (settings.lookup keyword).map Datum.boolean := by
  induction settings with
  | nil => rfl
  | cons setting settings ih =>
      rw [settingMembers, List.map_cons, List.lookup_cons, List.lookup_cons]
      cases keyword == setting.1 with
      | true => rfl
      | false => exact ih

theorem names_settingMembers (settings : List (String × Bool)) :
    (settingMembers settings).map (·.1) = settings.map (·.1) := by
  rw [settingMembers, List.map_map]
  rfl

namespace CheckConfig

/-- Documents call the options by their keywords. -/
theorem names_recordType : recordType.names = keywords := by decide

theorem accepts_setting {setting : String × Bool} (h : setting.1 ∈ keywords) :
    recordType.Accepts (setting.1, .boolean setting.2) := by
  rcases mem_keywords.mp h with hk | hk | hk
  all_goals
    rw [hk]
    exact ⟨_, rfl, trivial⟩

/-- Every option has the last value that is given to it, or its default. -/
theorem collects_settings (h : (settings.map (·.1)).Nodup) :
    recordType.Collects (settingMembers settings) (({} : CheckConfig).latest settings).values := by
  have hvalue : ∀ (keyword : String) (default : Bool),
      ((settingMembers settings).lookup keyword).or (some (.boolean default))
        = some (Datum.boolean ((lastValue settings keyword).getD default)) := by
    intro keyword default
    rw [lookup_settingMembers, ← lastValue_eq_lookup h]
    cases lastValue settings keyword <;> rfl
  exact .cons (hvalue "VERBOSE" false) (.cons (hvalue "DETAILS" false)
    (.cons (hvalue "CHECKSUM" true) .nil))

/-- What an object of settings is read as, if it is accepted. -/
theorem ofJson_settings_eq_ok_iff {lib : Library} (hlib : lib.Documented) {text : String}
    (hd : Document (ObjectToken Datum.text (settingMembers settings)) text)
    (config : CheckConfig) : declaration.ofJson text lib = .ok config
      ↔ ofKeywords settings = .ok config ∧ (settings.map (·.1)).Nodup := by
  have hmembers : ∀ m ∈ settingMembers settings, ∃ s ∈ settings, (s.1, .boolean s.2) = m :=
    fun _ hm => List.mem_map.mp hm
  rw [ofKeywords_eq_ok_iff]
  by_cases hknown : ∀ s ∈ settings, s.1 ∈ keywords
  · have haccepts : ∀ m ∈ settingMembers settings, recordType.Accepts m := by
      intro m hm
      obtain ⟨s, hs, rfl⟩ := hmembers m hm
      exact accepts_setting (hknown s hs)
    by_cases hnodup : (settings.map (·.1)).Nodup
    · have hread := hlib.read_object haccepts (by rwa [names_settingMembers])
        (collects_settings hnodup) hd
      have hvalue : declaration.ofValue? (.record (({} : CheckConfig).latest settings).values)
          = some (({} : CheckConfig).latest settings) := rfl
      rw [Declaration.ofJson_of_ok hread hvalue, Except.ok.injEq]
      exact ⟨fun he => ⟨⟨hknown, he.symm⟩, hnodup⟩, fun h => h.1.2.symm⟩
    · obtain ⟨e, hread⟩ := hlib.read_twice haccepts (by rwa [names_settingMembers]) hd
      rw [Declaration.ofJson_of_error hread]
      exact ⟨nofun, fun h => absurd h.2 hnodup⟩
  · have hfield : ∀ s : String × Bool, s.1 ∉ keywords → recordType.field? s.1 = none := by
      intro s hs
      rwa [RecordType.field?_eq_none_iff, names_recordType]
    have haccepts : ∀ m ∈ settingMembers settings,
        recordType.Accepts m ∨ recordType.field? m.1 = none := by
      intro m hm
      obtain ⟨s, -, rfl⟩ := hmembers m hm
      exact (Decidable.em (s.1 ∈ keywords)).imp accepts_setting (hfield s)
    have hunknown : ∃ m ∈ settingMembers settings, recordType.field? m.1 = none := by
      rw [not_forall] at hknown
      obtain ⟨s, hs⟩ := hknown
      obtain ⟨hmem, hnot⟩ := Classical.not_imp.mp hs
      exact ⟨_, List.mem_map.mpr ⟨s, hmem, rfl⟩, hfield s hnot⟩
    obtain ⟨e, hread⟩ := hlib.read_unknown rfl haccepts hunknown hd
    rw [Declaration.ofJson_of_error hread]
    exact ⟨nofun, fun h => absurd h.1.1 hknown⟩

end CheckConfig

end

/-! ## Both ways -/

/-- What a list of settings does as keywords, and as the members of an object that is read by means of
a library. -/
structure SettingsAgree (lib : Library) (settings : List (String × Bool)) : Prop where
  /-- The keywords are accepted if all are known, and the last value of each counts. -/
  accepted : ∀ config, CheckConfig.ofKeywords settings = .ok config
    ↔ (∀ s ∈ settings, s.1 ∈ CheckConfig.keywords) ∧ config = ({} : CheckConfig).latest settings
  /-- Otherwise the first unknown one is named. -/
  refused : ∀ e, CheckConfig.ofKeywords settings = .error e
    ↔ ∃ s, settings.find? (·.1 ∉ CheckConfig.keywords) = some s ∧ e = .unknownOption s.1
  /-- The settings are set one by one, up to the first that fails. -/
  one_by_one : CheckConfig.ofKeywords settings
    = settings.foldlM (fun config s => config.set s.1 s.2) {}
  /-- One that goes on after failures has the last value of each keyword that is known, and nothing
  of what failed. -/
  attempted : ∀ config : CheckConfig,
    settings.foldl CheckConfig.attempt config = config.latest settings
      ∧ (∀ s, s.1 ∉ CheckConfig.keywords → config.attempt s = config)
      ∧ (settings.filter (·.1 ∈ CheckConfig.keywords)).foldl CheckConfig.attempt config
        = settings.foldl CheckConfig.attempt config
  /-- Settings of different keywords can be exchanged; only which of several unknown keywords is
  named depends on their order. -/
  reordered : ∀ other, Reordered settings other →
    (∀ config : CheckConfig, settings.foldl CheckConfig.attempt config
        = other.foldl CheckConfig.attempt config)
      ∧ (∀ config, CheckConfig.ofKeywords settings = .ok config
        ↔ CheckConfig.ofKeywords other = .ok config)
      ∧ ((∀ a ∈ settings, ∀ b ∈ settings, a.1 ∉ CheckConfig.keywords →
          b.1 ∉ CheckConfig.keywords → a.1 = b.1) →
        CheckConfig.ofKeywords settings = CheckConfig.ofKeywords other)
  /-- In every text of the object with these members in this order, the same configuration is read,
  unless a keyword occurs twice. -/
  document : ∀ text, Document (ObjectToken Datum.text (settingMembers settings)) text → ∀ config,
    (CheckConfig.declaration.ofJson text lib = .ok config
      ↔ CheckConfig.ofKeywords settings = .ok config ∧ (settings.map (·.1)).Nodup)
  /-- Such a text is the one without blanks. -/
  written : Document (ObjectToken Datum.text (settingMembers settings))
    (object (settings.map fun s => (s.1, boolean s.2)))

/-- **The two ways to configure a checker agree** on every list of settings, and with every documented
library. -/
theorem settings_agree (lib : Library) (hlib : lib.Documented) (settings : List (String × Bool)) :
    SettingsAgree lib settings where
  accepted := CheckConfig.ofKeywords_eq_ok_iff settings
  refused := CheckConfig.ofKeywords_eq_error_iff settings
  one_by_one := CheckConfig.setAll_eq_foldlM settings {}
  attempted := fun config => ⟨CheckConfig.foldl_attempt settings config,
    fun _ => CheckConfig.attempt_of_notMem, CheckConfig.foldl_attempt_filter settings config⟩
  reordered := fun _ h => ⟨h.foldl_attempt, h.ofKeywords_eq_ok_iff, h.ofKeywords_eq⟩
  document := fun _ hd => CheckConfig.ofJson_settings_eq_ok_iff hlib hd
  written := by
    have hobject := objectToken_object Datum.text (settingMembers settings)
    rw [settingMembers, List.map_map] at hobject
    exact document_of_form hobject

/-- A keyword that is given twice has the last value, but as a field it is refused. The same keyword,
given once, is accepted both ways. -/
theorem settings_agree_twice :
    let once := [("CHECKSUM", false)]
    let twice := [("CHECKSUM", true), ("CHECKSUM", false)]
    let config : CheckConfig := { checksum := false }
    Library.standard.Documented
    ∧ CheckConfig.ofKeywords once = .ok config
    ∧ CheckConfig.declaration.ofJson (object [("CHECKSUM", "false")]) = .ok config
    ∧ CheckConfig.ofKeywords twice = .ok config
    ∧ CheckConfig.declaration.ofJson (object [("CHECKSUM", "true"), ("CHECKSUM", "false")])
      ≠ .ok config := by
  intro once twice config
  have hlib := Library.standard_documented
  have honce := settings_agree .standard hlib once
  have htwice := settings_agree .standard hlib twice
  refine ⟨hlib, rfl, ?_, rfl, ?_⟩
  · exact (honce.document _ honce.written config).mpr ⟨rfl, by decide⟩
  · intro h
    have hnodup := ((htwice.document _ htwice.written config).mp h).2
    exact absurd hnodup (by decide)

end PacketPath
