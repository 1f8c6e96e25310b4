import Rehearsal.Proofs.Command.Preparation
import Rehearsal.Proofs.Settings.Sections

namespace Rehearsal

namespace Sources

variable (sources : Sources) (environ : Environment)

-- Something stands where a map is needed that is none.
def IsMisplaced (depth : Nat) : Prop :=
  sources.HasStrayOverrides ∨ ¬ sources.IsTooDeep depth ∧ sources.HasStraySection environ

-- Too much stands in each other, or a setting of the generator cannot be written.
def IsUnreadable (platform : Platform) (fault : Data.Fault) : Prop :=
  fault = .depth ∧ sources.IsTooDeep platform.depth ∨
    ∃ config, sources.filled? platform.depth environ = some config ∧
      Settings.Stumbles platform config.memory (Settings.sectionOf config) fault

end Sources

namespace Store

-- Loads, and then asks for the settings.
def configured (platform : Platform) (tree : FileTree) (environ : Environment) (store : Store) :
    Except SettingsFault Settings := do
  let _ ← (store.load platform tree environ).2.result
  ((store.load platform tree environ).1.settings platform tree environ).2.result

variable {platform : Platform} {tree : FileTree} {environ : Environment} {store : Store}

section Configured

theorem configured_of_ok {config : Config}
    (h : (store.load platform tree environ).2.result = .ok config) (hfields : config.fields ≠ []) :
    configured platform tree environ store = Settings.ofConfig platform config := by
  rw [configured, h, settings, config_of_load h, if_neg (by simpa using hfields)]
  rfl

theorem configured_of_error {fault : SettingsFault}
    (h : (store.load platform tree environ).2.result = .error fault) :
    configured platform tree environ store = .error fault := by
  rw [configured, h]
  rfl

variable {path : Path} {sources : Sources} (hpath : store.path = some path)
  (h : sources.Supplied platform tree path store.environment)
include hpath h

theorem configured_of_hasStrayOverrides (hstray : sources.HasStrayOverrides) :
    configured platform tree environ store = .error .notSection :=
  configured_of_error (result_load_of_stray hpath h hstray)

theorem configured_of_isTooDeep (hstray : ¬ sources.HasStrayOverrides)
    (hdeep : sources.IsTooDeep platform.depth) :
    configured platform tree environ store = .error .depth := by
  apply configured_of_error
  rw [result_load hpath h hstray,
    (Sources.filled?_platform_eq_none_iff h.isSound platform environ).mpr hdeep]
  rfl

-- Otherwise all sources are put together, and the settings are read from what they come to.
theorem configured_eq_ofConfig (hstray : ¬ sources.HasStrayOverrides)
    (hdeep : ¬ sources.IsTooDeep platform.depth) : ∃ config,
      sources.filled? platform.depth environ = some config ∧
      configured platform tree environ store = Settings.ofConfig platform config ∧
      (Settings.IsSectionless config ↔ sources.HasStraySection environ) := by
  rw [← Sources.filled?_platform_eq_none_iff h.isSound platform environ, ← Ne,
    Option.ne_none_iff_exists'] at hdeep
  obtain ⟨config, hfilled⟩ := hdeep
  have hload := @result_load platform tree environ path sources store hpath h hstray
  obtain ⟨depth, hdepth⟩ := platform.exists_depth
  rw [hdepth] at hfilled hload ⊢
  have hgenerator : (config.fields.get? (.text "generator")).isSome :=
    (Sources.isSome_get?_filled h.isSound hfilled _).mpr ⟨defaultFields, by simp, rfl⟩
  have hfields : config.fields ≠ [] := by
    intro hnil
    rw [hnil] at hgenerator
    cases hgenerator
  rw [hfilled] at hload
  exact ⟨config, hfilled, configured_of_ok hload hfields,
    Sources.isSectionless_filled h.isSound hfilled⟩

theorem configured_eq_notSection_iff : configured platform tree environ store = .error .notSection ↔
    sources.IsMisplaced environ platform.depth := by
  by_cases hstray : sources.HasStrayOverrides
  · exact iff_of_true (configured_of_hasStrayOverrides hpath h hstray) (.inl hstray)
  · rw [Sources.IsMisplaced, or_iff_right hstray]
    by_cases hdeep : sources.IsTooDeep platform.depth
    · rw [configured_of_isTooDeep hpath h hstray hdeep]
      exact iff_of_false (by simp) fun hplaced => hplaced.1 hdeep
    · obtain ⟨config, -, hconfigured, hsection⟩ := configured_eq_ofConfig hpath h hstray hdeep
      rw [and_iff_right hdeep, ← hsection, hconfigured]
      exact Settings.ofConfig_eq_notSection_iff

theorem stumblesOn_configured (hplaced : ¬ sources.IsMisplaced environ platform.depth) :
    Settings.StumblesOn (configured platform tree environ store)
      (sources.IsUnreadable environ platform) := by
  have hstray : ¬ sources.HasStrayOverrides := fun hstray => hplaced (.inl hstray)
  by_cases hdeep : sources.IsTooDeep platform.depth
  · rw [configured_of_isTooDeep hpath h hstray hdeep]
    refine ⟨fun fault hfault => .inl ⟨?_, hdeep⟩, fun _ _ => ⟨.depth, rfl⟩, fun hnone => ?_⟩
    · exact (@SettingsFault.ofData_injective .depth fault (Except.error.inj hfault)).symm
    · exact absurd (.inl ⟨rfl, hdeep⟩) (hnone .depth)
  · obtain ⟨config, hfilled, hconfigured, hsection⟩ := configured_eq_ofConfig hpath h hstray hdeep
    have hgenerator := Settings.generatorSection_of_not_isSectionless fun hless =>
      hplaced (.inr ⟨hdeep, hsection.mp hless⟩)
    rw [hconfigured]
    refine (Settings.stumblesOn_ofConfig hgenerator).congr fun fault => ?_
    simp [Sources.IsUnreadable, hdeep, hfilled]

end Configured

section Calm

variable (platform tree environ)

theorem isCalm_merging (depth : Nat) (config : Config) (newer : Fields) :
    (merging depth config newer).IsCalm := Run.isCalm_ofExcept _

theorem isCalm_applyEnvironment (depth : Nat) (config : Config) (given : Data) :
    (applyEnvironment depth config given).IsCalm := by
  unfold applyEnvironment
  dsimp only
  split
  · exact isCalm_merging _ _ _
  · exact (Run.isCalm_ofExcept _).bind fun _ => isCalm_merging _ _ _

theorem isCalm_withFile (path : Path) (config : Config) :
    (withFile platform tree path config).IsCalm := by
  refine (Run.isCalm_ofExcept _).bind fun present => ?_
  cases present with
  | true => exact (Run.isCalm_ofExcept _).bind fun _ => isCalm_merging _ _ _
  | false => exact (Run.isCalm_tell (by decide) _).bind fun _ => Run.isCalm_pure _

theorem isCalm_withEnvironment (path : Path) (environment : String) (config : Config) :
    (withEnvironment platform tree path environment config).IsCalm := by
  unfold withEnvironment
  split
  · exact Run.isCalm_pure _
  · refine (Run.isCalm_ofExcept _).bind fun present => ?_
    cases present with
    | true => exact (Run.isCalm_ofExcept _).bind fun _ => isCalm_applyEnvironment _ _ _
    | false => exact (Run.isCalm_tell (by decide) _).bind fun _ => Run.isCalm_pure _

theorem isCalm_load (store : Store) : (store.load platform tree environ).2.IsCalm := by
  apply Run.IsCalm.mapError
  unfold loadConfig
  split
  · exact (Run.isCalm_tell (by decide) _).bind fun _ => Run.isCalm_pure _
  · exact (isCalm_withFile platform tree _ _).bind fun _ =>
      (isCalm_withEnvironment platform tree _ _ _).bind fun _ => (Run.isCalm_ofExcept _).bind fun _ =>
        (Run.isCalm_tell (by decide) _).bind fun _ => Run.isCalm_pure _

theorem isCalm_settings (store : Store) : (store.settings platform tree environ).2.IsCalm := by
  unfold settings
  split
  · exact (isCalm_load platform tree environ store).bind fun _ => Run.isCalm_ofExcept _
  · exact Run.isCalm_ofExcept _

end Calm

end Store

namespace Command

variable {platform : Platform} {tree : FileTree} {environ : Environment} {options : Options}

theorem isCalm_configuring : (configuring platform tree environ options).IsCalm :=
  (Run.isCalm_tell (by decide) _).bind fun _ =>
    ((Store.isCalm_load platform tree environ _).mapError _).bind fun _ =>
      (Store.isCalm_settings platform tree environ _).mapError _

theorem result_configuring : (configuring platform tree environ options).result =
    ((storeOf options).configured platform tree environ).mapError .settings := by
  unfold configuring Store.configured
  simp only [Run.result_bind, Run.result_info, Run.result_mapError]
  cases ((storeOf options).load platform tree environ).2.result <;> rfl

-- A run that ends with a message and without anything done.
structure Reports (tree : FileTree) (fault : SettingsFault) (outcome : Outcome) : Prop where
  exitCode : outcome.exitCode = 1
  effects : outcome.effects = { tree }
  message : outcome.log.getLast? = some ⟨.error, "Generation failed: " ++ fault.message⟩
  failure : outcome.failure = none

-- A run that something unforeseen stops, with nothing done and no error logged.
structure BreaksOff (tree : FileTree) (fault : SettingsFault) (outcome : Outcome) : Prop where
  exitCode : outcome.exitCode = 1
  effects : outcome.effects = { tree }
  silent : ∀ entry ∈ outcome.log, entry.level ≠ .error
  failure : outcome.failure = some (.settings fault)

section Fault

variable {fault : SettingsFault}
  (h : (storeOf options).configured platform tree environ = .error fault)
include h

theorem execute_of_configured : execute platform tree environ options =
    conclude { tree } ⟨(configuring platform tree environ options).log,
      .error (.settings fault)⟩ := by
  have hconfiguring :
      (configuring platform tree environ options).result = .error (.settings fault) := by
    rw [result_configuring, h]
    rfl
  have hresult : (prepare platform tree environ options).result = .error (.settings fault) := by
    rw [prepare_eq, Run.result_bind, hconfiguring]
    rfl
  have hlog : (prepare platform tree environ options).log =
      (configuring platform tree environ options).log := by
    rw [prepare_eq, Run.log_bind_of_error hconfiguring]
  rw [execute, hresult, hlog]

theorem reports_execute (hreported : (Failure.settings fault).isReported) :
    Reports tree fault (execute platform tree environ options) := by
  rw [execute_of_configured h]
  simp only [conclude, if_pos hreported]
  exact ⟨rfl, rfl, List.getLast?_concat, rfl⟩

theorem breaksOff_execute (hreported : ¬ (Failure.settings fault).isReported) :
    BreaksOff tree fault (execute platform tree environ options) := by
  rw [execute_of_configured h]
  simp only [conclude, if_neg hreported]
  exact ⟨rfl, rfl, isCalm_configuring, rfl⟩

end Fault

-- Every shape of the sources gives settings or a report, apart from these: something that is no map
-- where a map is needed, too much that stands in each other, and what cannot be written where a
-- text is needed.
theorem configured_outcome {store : Store} {path : Path} {sources : Sources}
    (hpath : store.path = some path)
    (h : sources.Supplied platform tree path store.environment) :
    (store.configured platform tree environ = .error .notSection ↔
        sources.IsMisplaced environ platform.depth) ∧
      ((∃ fault, store.configured platform tree environ = .error (.ofData fault)) ↔
        ¬ sources.IsMisplaced environ platform.depth ∧
          ∃ fault, sources.IsUnreadable environ platform fault) ∧
      (∀ fault, store.configured platform tree environ = .error (.ofData fault) →
        sources.IsUnreadable environ platform fault) ∧
      (¬ sources.IsMisplaced environ platform.depth →
        (∀ fault, ¬ sources.IsUnreadable environ platform fault) →
          (∃ settings, store.configured platform tree environ = .ok settings) ∨
            ∃ value key allowed, store.configured platform tree environ =
              .error (.invalidValue value key allowed)) ∧
      ∀ options, storeOf options = store →
        (∀ value key allowed,
          store.configured platform tree environ = .error (.invalidValue value key allowed) →
            Reports tree (.invalidValue value key allowed)
              (execute platform tree environ options)) ∧
        ∀ fault ∈ [SettingsFault.notSection, .number, .depth],
          store.configured platform tree environ = .error fault →
            BreaksOff tree fault (execute platform tree environ options) := by
  have hmisplaced := @Store.configured_eq_notSection_iff platform tree environ store path sources
    hpath h
  have hreads := @Store.stumblesOn_configured platform tree environ store path sources hpath h
  have hplaced : ∀ fault, store.configured platform tree environ = .error (.ofData fault) →
      ¬ sources.IsMisplaced environ platform.depth := by
    intro fault hfault
    rw [← hmisplaced, hfault]
    cases fault <;> simp [SettingsFault.ofData]
  refine ⟨hmisplaced, ⟨?_, ?_⟩, fun fault hfault => (hreads (hplaced fault hfault)).fault _ hfault,
    fun hnot => (hreads hnot).told, ?_⟩
  · rintro ⟨fault, hfault⟩
    have hnot := hplaced fault hfault
    exact ⟨hnot, fault, (hreads hnot).fault fault hfault⟩
  · rintro ⟨hnot, fault, hunreadable⟩
    exact (hreads hnot).stops fault hunreadable
  · rintro options rfl
    refine ⟨fun value key allowed hinvalid => reports_execute hinvalid rfl,
      fun fault hfault hbroken => breaksOff_execute hbroken ?_⟩
    simp only [List.mem_cons, List.not_mem_nil, or_false] at hfault
    obtain rfl | rfl | rfl := hfault
    · decide
    · decide
    · decide

-- A text where the section should be, and an environment that puts a section there.
def stray (next : Nat) : Content next where
  memory := []
  root := .map [(.text "generator", .text "text")]
  sound := rfl

def mending (next : Nat) : Content next where
  memory := []
  root := .map [(.text "overrides", .map [(.text "generator",
    .map [(.text "kind", .text "unit_test")])])]
  sound := rfl

def mendingReader : Platform where
  read next text :=
    if text = "generator: text\n" then .ok (stray next)
    else if text = "overrides:\n  generator:\n    kind: unit_test\n" then .ok (mending next)
    else .error .invalid
  print text := text ++ "\n"
  depth := commonDepth
  roomy := le_commonDepth
  writingDepth := commonDepth

def mended : FileTree :=
  ⟨[(["conf.yaml"], .file "generator: text\n".toUTF8),
    (["environments"], .directory),
    (["environments", "ci.yaml"],
      .file "overrides:\n  generator:\n    kind: unit_test\n".toUTF8)]⟩

def mendedSources : Sources where
  known := []
  root := (stray 0).root
  loaded := []
  given := (mending 0).root

theorem supplies_mended :
    Store.Supplies mendingReader mended (Path.ofString "conf.yaml") [] [] (stray 0).root := by
  have hlocate : mended.locate (Path.ofString "conf.yaml") = .ok ["conf.yaml"] :=
    FileTree.locate_eq_ok.mpr ⟨by decide, by decide, rfl⟩
  exact @Store.supplies_of_text mendingReader _ _ _ [] _ (stray 0) _ hlocate rfl rfl rfl

theorem supplied_mendedSources :
    mendedSources.Supplied mendingReader mended (Path.ofString "conf.yaml") "ci" where
  file := supplies_mended
  environment := by
    have hlocate : mended.locate (Store.environmentPath (Path.ofString "conf.yaml") "ci") =
        .ok ["environments", "ci.yaml"] := FileTree.locate_eq_ok.mpr ⟨by decide, by decide, rfl⟩
    exact .named (by decide)
      (@Store.supplies_of_text mendingReader _ _ _ [] _ (mending 0) _ hlocate rfl rfl rfl)

theorem not_isUnreadable_mendedSources (fault : Data.Fault) :
    ¬ mendedSources.IsUnreadable [] mendingReader fault := by
  have hsection : (mendedSources.filled? commonDepth []).map Settings.sectionOf =
      some [(.text "kind", .text "unit_test")] := rfl
  obtain ⟨config, hfilled, hsection⟩ := Option.map_eq_some_iff.mp hsection
  rintro (⟨-, hdeep⟩ | ⟨other, hother, hstumbles⟩)
  · have hnone := (Sources.filled?_platform_eq_none_iff supplied_mendedSources.isSound _ []).mpr hdeep
    cases hfilled.symm.trans hnone
  · cases hfilled.symm.trans hother
    rw [hsection] at hstumbles
    have hwritable : ∀ key, ¬ Settings.IsUnwritable mendingReader config.memory
        [(.text "kind", .text "unit_test")] key fault := by
      rintro key ⟨value, hvalue, hstops⟩
      obtain ⟨field, hfield, -, rfl⟩ := Fields.mem_of_get? hvalue
      obtain rfl := List.mem_singleton.mp hfield
      exact Memory.not_stopsAlone_text hstops
    obtain hkind | ⟨-, key, -, hkey⟩ := hstumbles
    · exact hwritable _ hkind
    · exact hwritable key hkey

theorem configured_outcome_mended :
    (∃ settings, (Store.ofNames (some "conf.yaml") (some "ci")).configured mendingReader mended [] =
        .ok settings) ∨
      ∃ value key allowed, (Store.ofNames (some "conf.yaml") (some "ci")).configured mendingReader
        mended [] = .error (.invalidValue value key allowed) := by
  have hplaced : ¬ mendedSources.IsMisplaced [] mendingReader.depth := by
    rintro (⟨value, htaken, hvalue⟩ | ⟨-, value, hnewest, hvalue, -⟩)
    · cases htaken
      cases hvalue
    · cases hnewest
      cases hvalue
  exact (@configured_outcome mendingReader mended [] (Store.ofNames (some "conf.yaml") (some "ci"))
    (Path.ofString "conf.yaml") mendedSources rfl supplied_mendedSources).2.2.2.1 hplaced
      not_isUnreadable_mendedSources

-- Without an environment the text stays, and nobody is told.
theorem breaksOff_unmended :
    (storeOf { config := "conf.yaml" }).configured mendingReader mended [] = .error .notSection ∧
      BreaksOff mended .notSection (execute mendingReader mended [] { config := "conf.yaml" }) := by
  let unmended : Sources := { mendedSources with given := .map [] }
  have hsupplied : unmended.Supplied mendingReader mended (Path.ofString "conf.yaml") "" :=
    ⟨supplies_mended, .unnamed⟩
  have hdeep : ¬ unmended.IsTooDeep mendingReader.depth := by
    rw [← Sources.filled?_platform_eq_none_iff hsupplied.isSound mendingReader [], ← Ne,
      ← Option.isSome_iff_ne_none]
    rfl
  have hstray : unmended.IsMisplaced [] mendingReader.depth :=
    .inr ⟨hdeep, .text "text", rfl, rfl, rfl⟩
  have hfault := (@Store.configured_eq_notSection_iff mendingReader mended []
    (storeOf { config := "conf.yaml" }) _ unmended rfl hsupplied).mpr hstray
  exact ⟨hfault, breaksOff_execute hfault (by decide)⟩

end Command

end Rehearsal
