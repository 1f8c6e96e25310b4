import Rehearsal.Command.Run
import Rehearsal.Proofs.Log.Result

namespace Rehearsal

namespace Feature

theorem collectFiles_eq_ok {tree : FileTree} {wanted : List String} {paths : List Path}
    {features : List Feature} (h : (collectFiles tree wanted paths).result = .ok features) :
    ∀ path ∈ paths, ∃ feature, ofFile tree path = .ok feature := by
  induction paths generalizing features with
  | nil => exact List.forall_mem_nil _
  | cons path rest ih =>
      rw [collectFiles] at h
      obtain ⟨feature, hfeature, h⟩ := Run.bind_eq_ok.mp h
      obtain ⟨kept, -, h⟩ := Run.bind_eq_ok.mp h
      obtain ⟨others, hothers, -⟩ := Run.bind_eq_ok.mp h
      exact List.forall_mem_cons.mpr ⟨⟨feature, hfeature⟩, ih hothers⟩

-- Nothing is collected unless every file can be parsed.
theorem collect_eq_ok {tree : FileTree} {directory : Path} {tags : List String}
    {features : List Feature} (h : (collect tree directory tags).result = .ok features) :
    ∃ paths, tree.find directory fileEnding = .ok paths ∧
      ∀ path ∈ paths, ∃ feature, ofFile tree path = .ok feature := by
  obtain ⟨paths, hpaths, h⟩ := Run.bind_eq_ok.mp h
  obtain ⟨found, hfound, -⟩ := Run.bind_eq_ok.mp h
  exact ⟨paths, Result.mapError_eq_ok.mp hpaths, collectFiles_eq_ok hfound⟩

end Feature

namespace Command

variable {platform : Platform} {tree : FileTree} {environ : Environment} {options : Options}

-- Where a run looks for settings.
def storeOf (options : Options) : Store :=
  Store.ofNames (some options.config) (some options.environment)

def collected (tree : FileTree) (options : Options) : Except Feature.CollectFault (List Feature) :=
  (Feature.collect tree (Path.ofString options.features) options.tags).result

-- The settings of a run, and the store that holds all that was loaded.
structure Loads (platform : Platform) (tree : FileTree) (environ : Environment) (options : Options)
    (store : Store) (settings : Settings) : Prop where
  load : ∃ config, ((storeOf options).load platform tree environ).2.result = .ok config
  filled : ((storeOf options).load platform tree environ).1 = store
  settings : (store.settings platform tree environ).2.result = .ok settings

-- All that is needed before the first feature can be generated.
structure Starts (platform : Platform) (tree : FileTree) (environ : Environment) (options : Options)
    (features : List Feature) (g : TestClass.Generator) (directory : Path) : Prop where
  collect : collected tree options = .ok features
  nonempty : features ≠ []
  settings : ∃ store settings, Loads platform tree environ options store settings ∧
    (TestClass.Generator.ofSettings (adjusted options settings) none).result = .ok g ∧
    directoryOf options store = .ok directory

-- What can go wrong before that.
inductive FailsToStart (platform : Platform) (tree : FileTree) (environ : Environment)
    (options : Options) : Prop where
  | load {fault : SettingsFault}
      (h : ((storeOf options).load platform tree environ).2.result = .error fault)
  | settings {fault : SettingsFault}
      (h : (((storeOf options).load platform tree environ).1.settings platform tree
        environ).2.result = .error fault)
  | search {error : FileError}
      (h : tree.find (Path.ofString options.features) Feature.fileEnding = .error error)
  | parse {paths : List Path} {path : Path} {fault : Feature.CollectFault}
      (found : tree.find (Path.ofString options.features) Feature.fileEnding = .ok paths)
      (mem : path ∈ paths) (h : Feature.ofFile tree path = .error fault)
  | framework {store : Store} {settings : Settings} {features : List Feature}
      {unknown : TestClass.UnknownFramework}
      (loads : Loads platform tree environ options store settings)
      (collect : collected tree options = .ok features) (nonempty : features ≠ [])
      (h : (TestClass.Generator.ofSettings (adjusted options settings) none).result =
        .error unknown)
  | directory {store : Store} {settings : Settings} {features : List Feature} {failure : Failure}
      (loads : Loads platform tree environ options store settings)
      (collect : collected tree options = .ok features) (nonempty : features ≠ [])
      (h : directoryOf options store = .error failure)

theorem Loads.unique {store store' : Store} {settings settings' : Settings}
    (h : Loads platform tree environ options store settings)
    (h' : Loads platform tree environ options store' settings') :
    store = store' ∧ settings = settings' := by
  obtain rfl : store = store' := h.filled.symm.trans h'.filled
  have hsettings := h.settings.symm.trans h'.settings
  exact ⟨rfl, Except.ok.inj hsettings⟩

-- The first part of the preparation.
def configuring (platform : Platform) (tree : FileTree) (environ : Environment)
    (options : Options) : Run Failure Settings := do
  Run.info ("Starting retrygen v" ++ version)
  let _ ← ((storeOf options).load platform tree environ).2.mapError .settings
  (((storeOf options).load platform tree environ).1.settings platform tree environ).2.mapError
    .settings

theorem prepare_eq : prepare platform tree environ options =
    configuring platform tree environ options >>=
      prepared tree options ((storeOf options).load platform tree environ).1 := by
  simp only [configuring, bind_assoc]
  rfl

theorem prepare_eq_ok {preparation : Preparation} :
    (prepare platform tree environ options).result = .ok preparation ↔
      ∃ store settings, Loads platform tree environ options store settings ∧
        (prepared tree options store settings).result = .ok preparation := by
  rw [prepare_eq, Run.bind_eq_ok]
  unfold configuring
  simp only [Run.bind_eq_ok, Run.mapError_eq_ok]
  constructor
  · rintro ⟨settings, ⟨-, -, config, hload, hsettings⟩, hprepared⟩
    exact ⟨_, settings, ⟨⟨config, hload⟩, rfl, hsettings⟩, hprepared⟩
  · rintro ⟨_, settings, ⟨⟨config, hload⟩, rfl, hsettings⟩, hprepared⟩
    exact ⟨settings, ⟨(), rfl, config, hload, hsettings⟩, hprepared⟩

theorem prepared_eq_ok {store : Store} {settings : Settings} {preparation : Preparation} :
    (prepared tree options store settings).result = .ok preparation ↔
      ∃ features, collected tree options = .ok features ∧
        (features = [] ∧ preparation = ⟨[], none⟩ ∨
          features ≠ [] ∧ ∃ g directory,
            (TestClass.Generator.ofSettings (adjusted options settings) none).result = .ok g ∧
            directoryOf options store = .ok directory ∧
            preparation = ⟨features, some (g, directory)⟩) := by
  unfold prepared
  rw [Run.bind_eq_ok]
  simp only [Run.mapError_eq_ok]
  refine exists_congr fun features => and_congr Iff.rfl ?_
  cases features with
  | nil => simp [Except.map, eq_comm]
  | cons feature rest =>
      simp only [List.isEmpty_cons, Bool.false_eq_true, if_false, Run.bind_eq_ok,
        Run.mapError_eq_ok, Run.result_ofExcept, Run.result_pure, Except.ok.injEq]
      constructor
      · rintro ⟨g, hg, directory, hdirectory, rfl⟩
        exact .inr ⟨List.cons_ne_nil _ _, g, directory, hg, hdirectory, rfl⟩
      · rintro (⟨hnil, -⟩ | ⟨-, g, directory, hg, hdirectory, rfl⟩)
        · cases hnil
        · exact ⟨g, hg, directory, hdirectory, rfl⟩

-- A run that cannot start stops in its preparation.
theorem FailsToStart.prepare (h : FailsToStart platform tree environ options) :
    ∃ failure, (prepare platform tree environ options).result = .error failure := by
  cases hprepare : (Command.prepare platform tree environ options).result with
  | error failure => exact ⟨failure, rfl⟩
  | ok preparation =>
      obtain ⟨store, settings, hloads, hprepared⟩ := prepare_eq_ok.mp hprepare
      obtain ⟨features, hfeatures, hrest⟩ := prepared_eq_ok.mp hprepared
      obtain ⟨paths, hpaths, hparsed⟩ := Feature.collect_eq_ok hfeatures
      exfalso
      cases h with
      | load h =>
          obtain ⟨config, hload⟩ := hloads.load
          rw [hload] at h
          cases h
      | settings h =>
          rw [hloads.filled, hloads.settings] at h
          cases h
      | search h =>
          rw [hpaths] at h
          cases h
      | parse found mem h =>
          rw [hpaths] at found
          cases found
          obtain ⟨feature, hfeature⟩ := hparsed _ mem
          rw [hfeature] at h
          cases h
      | framework loads collect nonempty h =>
          obtain ⟨rfl, rfl⟩ := loads.unique hloads
          rw [hfeatures] at collect
          cases collect
          obtain ⟨hnil, -⟩ | ⟨-, g, directory, hg, -⟩ := hrest
          · exact nonempty hnil
          · rw [hg] at h
            cases h
      | directory loads collect nonempty h =>
          obtain ⟨rfl, rfl⟩ := loads.unique hloads
          rw [hfeatures] at collect
          cases collect
          obtain ⟨hnil, -⟩ | ⟨-, g, directory, -, hdirectory, -⟩ := hrest
          · exact nonempty hnil
          · rw [hdirectory] at h
            cases h

theorem Starts.prepare {features : List Feature} {g : TestClass.Generator} {directory : Path}
    (h : Starts platform tree environ options features g directory) :
    (prepare platform tree environ options).result = .ok ⟨features, some (g, directory)⟩ := by
  obtain ⟨store, settings, hloads, hg, hdirectory⟩ := h.settings
  rw [prepare_eq_ok]
  refine ⟨store, settings, hloads, prepared_eq_ok.mpr ⟨features, h.collect, .inr ?_⟩⟩
  exact ⟨h.nonempty, g, directory, hg, hdirectory, rfl⟩

theorem Loads.prepare_idle {store : Store} {settings : Settings}
    (h : Loads platform tree environ options store settings)
    (hnone : collected tree options = .ok []) :
    (prepare platform tree environ options).result = .ok ⟨[], none⟩ :=
  prepare_eq_ok.mpr ⟨store, settings, h, prepared_eq_ok.mpr ⟨[], hnone, .inl ⟨rfl, rfl⟩⟩⟩

theorem conclude_ok (effects : Effects) (log : List Entry) :
    (conclude effects ⟨log, .ok ()⟩).exitCode = 0 ∧
      (conclude effects ⟨log, .ok ()⟩).effects = effects :=
  ⟨rfl, rfl⟩

theorem conclude_error (effects : Effects) (log : List Entry) (failure : Failure) :
    (conclude effects ⟨log, .error failure⟩).exitCode = 1 ∧
      (conclude effects ⟨log, .error failure⟩).effects = effects := by
  by_cases hreported : failure.isReported
  · simp [conclude, hreported]
  · simp [conclude, hreported]

theorem execute_of_error {failure : Failure}
    (h : (prepare platform tree environ options).result = .error failure) :
    (execute platform tree environ options).exitCode = 1 ∧
      (execute platform tree environ options).effects = { tree } := by
  simp only [execute, h]
  exact conclude_error _ _ _

theorem execute_of_none {features : List Feature}
    (h : (prepare platform tree environ options).result = .ok ⟨features, none⟩) :
    (execute platform tree environ options).exitCode = 0 ∧
      (execute platform tree environ options).effects = { tree } := by
  simp only [execute, h]
  exact conclude_ok _ _

-- A run that starts succeeds if all its features are emitted.
theorem execute_of_some {features : List Feature} {g : TestClass.Generator} {directory : Path}
    (h : (prepare platform tree environ options).result = .ok ⟨features, some (g, directory)⟩) :
    (execute platform tree environ options).effects =
        (emit platform g options directory { tree } features).1 ∧
      ((execute platform tree environ options).exitCode = 0 ∧
          (emit platform g options directory { tree } features).2.result = .ok () ∨
        (execute platform tree environ options).exitCode = 1 ∧ ∃ failure,
          (emit platform g options directory { tree } features).2.result = .error failure) := by
  simp only [execute, h]
  cases hemit : (emit platform g options directory { tree } features).2.result with
  | error failure =>
      have hresult : ((emit platform g options directory { tree } features).2 >>= fun _ =>
          Run.info ("Generated " ++ toString features.length ++ " feature(s)")).result =
            .error failure := by
        simp [hemit, Except.bind]
      rw [hresult]
      obtain ⟨hcode, heffects⟩ := conclude_error
        (emit platform g options directory { tree } features).1 _ failure
      exact ⟨heffects, .inr ⟨hcode, failure, rfl⟩⟩
  | ok done =>
      have hresult : ((emit platform g options directory { tree } features).2 >>= fun _ =>
          Run.info ("Generated " ++ toString features.length ++ " feature(s)")).result =
            .ok () := by
        simp [hemit, Except.bind]
      rw [hresult]
      obtain ⟨hcode, heffects⟩ :=
        conclude_ok (emit platform g options directory { tree } features).1 _
      exact ⟨heffects, .inl ⟨hcode, rfl⟩⟩

end Command

end Rehearsal
