import Rehearsal.Proofs.Settings.Expansion
import Rehearsal.Proofs.Settings.Overriding
import Rehearsal.Settings.Store

namespace Rehearsal

theorem Platform.exists_depth (platform : Platform) : ∃ depth, platform.depth = depth + 2 :=
  Nat.exists_eq_add_of_le' (Nat.le_of_succ_le platform.roomy)

namespace Memory

-- A memory that keeps what was there and holds a map that refers to what is new only.
structure Extends (memory after : Memory) (root : Data) : Prop where
  keeps : ∀ place < memory.length, after.look (.shared place) = memory.look (.shared place)
  sound : root.isSound memory.length after.length
  holds : after.Holds memory.length after.length

theorem look_append_left {memory other : Memory} {place : Nat} (h : place < memory.length) :
    look (memory ++ other) (.shared place) = memory.look (.shared place) := by
  simp only [look, List.getD_eq_getElem?_getD, List.getElem?_append_left h]

theorem extends_nil (memory : Memory) : memory.Extends memory (.map []) where
  keeps _ _ := rfl
  sound := rfl
  holds _ hlow hhigh := absurd hhigh (Nat.not_lt.mpr hlow)

theorem extends_document (memory : Memory) (document : Content memory.length) :
    memory.Extends (memory ++ document.memory) document.root := by
  obtain ⟨hroot, hmemory⟩ := List.forall_mem_cons.mp (List.all_eq_true.mp document.sound)
  rw [← List.length_append] at hroot hmemory
  refine ⟨fun place hplace => look_append_left hplace, hroot, fun place hlow hhigh => ?_⟩
  rw [look, List.getD_eq_getElem?_getD, List.getElem?_eq_getElem hhigh, Option.getD_some,
    List.getElem_append_right hlow]
  exact hmemory _ (List.getElem_mem _)

end Memory

namespace Store

variable {platform : Platform} {tree : FileTree} {path : Path} {memory after : Memory} {root : Data}

-- The map of a file, and the memory once it is read. One that is not there has no fields.
inductive Supplies (platform : Platform) (tree : FileTree) (path : Path) (memory : Memory) :
    Memory → Data → Prop where
  | missing (absent : isThere tree path = .ok false) :
      Supplies platform tree path memory memory (.map [])
  | given {after : Memory} {root : Data} (present : isThere tree path = .ok true)
      (content : readFile platform tree path memory = .ok (after, root)) :
      Supplies platform tree path memory after root

-- The same for the file of an environment. Without a name there is none.
inductive SuppliesNamed (platform : Platform) (tree : FileTree) (path : Path) (memory : Memory) :
    String → Memory → Data → Prop where
  | unnamed : SuppliesNamed platform tree path memory "" memory (.map [])
  | named {environment : String} {after : Memory} {root : Data} (name : environment ≠ "")
      (content : Supplies platform tree (environmentPath path environment) memory after root) :
      SuppliesNamed platform tree path memory environment after root

theorem extends_of_readFile (h : readFile platform tree path memory = .ok (after, root)) :
    memory.Extends after root := by
  unfold readFile at h
  obtain ⟨text, -, h⟩ := Result.bind_eq_ok.mp h
  split at h
  · cases h
  · cases h
  · next document _ =>
    have hextends := memory.extends_document document
    dsimp only at h
    split at h
    · cases h
      exact ⟨hextends.keeps, rfl, hextends.holds⟩
    · cases h
      exact hextends
    · cases h

theorem Supplies.extends (h : Supplies platform tree path memory after root) :
    memory.Extends after root := by
  cases h with
  | missing _ => exact memory.extends_nil
  | given _ content => exact extends_of_readFile content

theorem SuppliesNamed.extends {environment : String}
    (h : SuppliesNamed platform tree path memory environment after root) :
    memory.Extends after root := by
  cases h with
  | unnamed => exact memory.extends_nil
  | named _ content => exact content.extends

end Store

-- What the files hold before anything is put together: the map of each, and what is shared once it
-- is read.
structure Sources where
  known : Memory
  root : Data
  loaded : Memory
  given : Data

namespace Sources

def file (sources : Sources) : Fields := sources.known.fieldsOf sources.root

-- What stands under the label of the overrides in the environment's file.
def taken? (sources : Sources) : Option Data :=
  (sources.loaded.fieldsOf sources.given).get? Store.overridesLabel

-- The other fields of that file.
def others (sources : Sources) : Fields :=
  (sources.loaded.fieldsOf sources.given).erase Store.overridesLabel

-- What is shared once the overrides are taken out.
def memory (sources : Sources) : Memory :=
  if sources.taken?.isSome then (sources.loaded.assign sources.given sources.others).1
  else sources.loaded

def overrides (sources : Sources) : Fields :=
  (sources.taken?.map sources.memory.fieldsOf).getD []

-- Something else stands where the overrides should.
def HasStrayOverrides (sources : Sources) : Prop :=
  ∃ value, sources.taken? = some value ∧ sources.memory.fields? value = none

structure Supplied (sources : Sources) (platform : Platform) (tree : FileTree) (path : Path)
    (environment : String) : Prop where
  file : Store.Supplies platform tree path [] sources.known sources.root
  environment : Store.SuppliesNamed platform tree path sources.known environment sources.loaded
    sources.given

-- The file and the environment's file have places of their own.
structure IsSound (sources : Sources) : Prop where
  file : (Data.map sources.file).isSound 0 sources.known.length
  known : sources.known.Holds 0 sources.known.length
  keeps : ∀ place < sources.known.length,
    sources.memory.look (.shared place) = sources.known.look (.shared place)
  given : sources.given.isSound sources.known.length sources.loaded.length
  overrides : (Data.map sources.overrides).isSound sources.known.length sources.loaded.length
  others : (Data.map sources.others).isSound sources.known.length sources.loaded.length
  holds : sources.memory.Holds sources.known.length sources.loaded.length

theorem memory_eq (sources : Sources) : sources.memory = sources.loaded ∨
    ∃ place, sources.given = .shared place ∧
      sources.memory = sources.loaded.set place (.map sources.others) := by
  unfold memory Memory.assign
  split_ifs with htaken
  · split
    · next place hplace => exact .inr ⟨place, hplace, rfl⟩
    · exact .inl rfl
  · exact .inl rfl

theorem look_memory {sources : Sources} {place : Nat} (h : sources.given ≠ .shared place) :
    sources.memory.look (.shared place) = sources.loaded.look (.shared place) := by
  obtain hmemory | ⟨other, hother, hmemory⟩ := sources.memory_eq
  · rw [hmemory]
  · have hne : place ≠ other := fun heq => h (heq ▸ hother)
    rw [hmemory, Memory.look_set_of_ne hne]

theorem isSound_of_extends {sources : Sources}
    (hfile : Memory.Extends [] sources.known sources.root)
    (hgiven : sources.known.Extends sources.loaded sources.given) : sources.IsSound := by
  have hfields := hgiven.holds.fieldsOf hgiven.sound
  have hothers : (Data.map sources.others).isSound sources.known.length sources.loaded.length :=
    Data.isSound_erase hfields _
  have hholds : sources.memory.Holds sources.known.length sources.loaded.length := by
    intro place hlow hhigh
    obtain hmemory | ⟨other, -, hmemory⟩ := sources.memory_eq
    · rw [hmemory]
      exact hgiven.holds place hlow hhigh
    · rw [hmemory]
      by_cases hplace : place = other
      · subst hplace
        simpa [Memory.look, hhigh] using hothers
      · rw [Memory.look_set_of_ne hplace]
        exact hgiven.holds place hlow hhigh
  refine ⟨hfile.holds.fieldsOf hfile.sound, hfile.holds, fun place hplace => ?_,
    hgiven.sound, ?_, hothers, hholds⟩
  · rw [look_memory, hgiven.keeps place hplace]
    intro heq
    have hsound := hgiven.sound
    rw [heq, Data.isSound_shared] at hsound
    exact Nat.not_lt.mpr hsound.1 hplace
  · unfold overrides
    cases htaken : sources.taken? with
    | none => rfl
    | some value =>
        obtain ⟨field, hfield, -, rfl⟩ := Fields.mem_of_get? htaken
        exact hholds.fieldsOf ((Data.isSound_map.mp hfields).2 field hfield)

theorem Supplied.isSound {sources : Sources} {platform : Platform} {tree : FileTree} {path : Path}
    {environment : String} (h : sources.Supplied platform tree path environment) :
    sources.IsSound :=
  isSound_of_extends h.file.extends h.environment.extends

section Assembly

variable (sources : Sources) (depth : Nat)

-- The defaults with the file, then the overrides, then the other fields of the environment.
def merged? : Option Config :=
  (sources.known.merge? depth defaultFields sources.file).map
    fun fields => { memory := sources.memory, fields }

def overridden? : Option Config := (sources.merged? depth).map (·.override sources.overrides)

def assembled? : Option Config :=
  (sources.overridden? depth).bind (·.merge? depth sources.others)

-- All of it, with the variables in place.
def filled? (environ : Environment) : Option Config :=
  (sources.assembled? depth).bind (·.expand? environ depth)

-- Too much stands in each other, where maps are copied or where all is expanded.
inductive IsTooDeep : Prop where
  | copied {config : Config} (h : sources.overridden? depth = some config)
      (deep : config.memory.NestsMaps depth config.fields)
  | expanded {config : Config} (h : sources.assembled? depth = some config)
      (deep : config.memory.Nests depth (.map config.fields))

end Assembly

section Depth

variable {sources : Sources} {depth : Nat}

-- The defaults are sections of scalars.
theorem section_of_mem_defaultFields {field : Scalar × Data} (h : field ∈ defaultFields) :
    ∃ inner, field.2 = .map inner ∧ ∀ entry ∈ inner, ∃ value, entry.2 = .scalar value := by
  simp only [defaultFields, List.mem_cons, List.not_mem_nil, or_false] at h
  obtain rfl | rfl := h
  · exact ⟨_, rfl, by simp⟩
  · exact ⟨_, rfl, by simp⟩

theorem not_nestsMaps_defaultFields (memory : Memory) (depth : Nat) :
    ¬ memory.NestsMaps (depth + 2) defaultFields := by
  rw [Memory.nestsMaps_succ]
  rintro ⟨field, hfield, inner, hinner, hdeeper⟩
  obtain ⟨known, hknown, hscalars⟩ := section_of_mem_defaultFields hfield
  rw [hknown] at hinner
  cases hinner
  obtain ⟨entry, hentry, deepest, hdeepest, -⟩ := Memory.nestsMaps_succ.mp hdeeper
  obtain ⟨value, hvalue⟩ := hscalars entry hentry
  rw [hvalue] at hdeepest
  cases hdeepest

theorem isSome_merged? (h : sources.IsSound) (depth : Nat) :
    (sources.merged? (depth + 2)).isSome := by
  rw [merged?, Option.isSome_map, Option.isSome_iff_ne_none, Ne,
    Memory.merge?_eq_none_iff h.known h.file]
  exact not_nestsMaps_defaultFields _ depth

-- What is shared under a label of the file stays so, unless it is merged with a default.
theorem get?_merged?_eq_shared (h : sources.IsSound) {config : Config}
    (hconfig : sources.merged? (depth + 1) = some config) {label : Label} {place : Nat} :
    config.fields.get? label = some (.shared place) ↔
      sources.file.get? label = some (.shared place) ∧
        (defaultFields.get? label = none ∨ sources.known.fields? (.shared place) = none) := by
  obtain ⟨fields, hfields, rfl⟩ := Option.map_eq_some_iff.mp hconfig
  have hmerged := Memory.merged_merge? (Data.isSound_map.mp h.file).1 hfields label
  dsimp only
  generalize fields.get? label = after at hmerged
  generalize sources.file.get? label = given at hmerged
  cases hdefault : defaultFields.get? label with
  | none =>
      rw [hdefault] at hmerged
      cases hmerged with
      | absent => simp
      | replaced _ => simp
  | some value =>
      obtain ⟨field, hfield, -, rfl⟩ := Fields.mem_of_get? hdefault
      obtain ⟨inner, hinner, -⟩ := section_of_mem_defaultFields hfield
      rw [hdefault, hinner] at hmerged
      cases hmerged with
      | kept plain => cases plain
      | copied _ _ => simp
      | replaced plain =>
          obtain hinner | hplain := plain
          · cases hinner
          · refine ⟨fun hshared => ⟨hshared, .inr ?_⟩, fun hshared => hshared.1⟩
            rwa [← Option.some.inj hshared]
      | both _ _ newMap _ =>
          refine iff_of_false (by simp) ?_
          rintro ⟨hshared, hdefault | hplain⟩
          · cases hdefault
          · cases hshared
            cases hplain.symm.trans newMap

theorem isReady_merged (h : sources.IsSound) {config : Config}
    (hconfig : sources.merged? (depth + 1) = some config) :
    Config.IsReady sources.memory sources.known.length config sources.overrides := by
  have hmemory : config.memory = sources.memory := by
    obtain ⟨fields, -, rfl⟩ := Option.map_eq_some_iff.mp hconfig
    rfl
  refine ⟨fun place _ => by rw [hmemory], fun field _ place hplace => ?_⟩
  obtain ⟨hfile, -⟩ := (get?_merged?_eq_shared h hconfig).mp hplace
  obtain ⟨given, hgiven, -, hvalue⟩ := Fields.mem_of_get? hfile
  have hsound := (Data.isSound_map.mp h.file).2 given hgiven
  rw [hvalue, Data.isSound_shared] at hsound
  exact hsound.2

theorem overridden?_eq_some {config : Config} : sources.overridden? depth = some config ↔
    ∃ merged, sources.merged? depth = some merged ∧ merged.override sources.overrides = config := by
  rw [overridden?, Option.map_eq_some_iff]

theorem agreeFrom_overridden (h : sources.IsSound) {config : Config}
    (hconfig : sources.overridden? (depth + 1) = some config) :
    sources.memory.AgreeFrom sources.known.length config.memory := by
  obtain ⟨merged, hmerged, rfl⟩ := overridden?_eq_some.mp hconfig
  exact (isReady_merged h hmerged).agreeFrom_override (Data.isSound_map.mp h.overrides).1

theorem filled?_eq_none_iff (h : sources.IsSound) (environ : Environment) :
    sources.filled? (depth + 2) environ = none ↔ sources.IsTooDeep (depth + 2) := by
  obtain ⟨merged, hmerged⟩ := Option.isSome_iff_exists.mp (isSome_merged? h depth)
  have hoverridden := overridden?_eq_some.mpr ⟨merged, hmerged, rfl⟩
  generalize merged.override sources.overrides = config at hoverridden
  have hassembled : sources.assembled? (depth + 2) = config.merge? (depth + 2) sources.others := by
    rw [assembled?, hoverridden, Option.bind_some]
  have hcopied : config.merge? (depth + 2) sources.others = none ↔
      config.memory.NestsMaps (depth + 2) config.fields := by
    rw [Config.merge?, Option.map_eq_none_iff]
    exact Memory.merge?_eq_none_iff ((agreeFrom_overridden h hoverridden).holds h.holds) h.others
  rw [filled?, Option.bind_eq_none_iff]
  constructor
  · intro hnone
    cases hresult : config.merge? (depth + 2) sources.others with
    | none => exact .copied hoverridden (hcopied.mp hresult)
    | some assembled =>
        rw [hassembled, hresult] at hnone
        exact .expanded (hassembled.trans hresult) (Config.expand?_eq_none_iff.mp (hnone _ rfl))
  · intro hdeep assembled hsome
    cases hdeep with
    | copied hconfig deep =>
        cases hoverridden.symm.trans hconfig
        cases (hassembled.trans (hcopied.mpr deep)).symm.trans hsome
    | expanded hconfig deep =>
        cases hsome.symm.trans hconfig
        exact Config.expand?_eq_none_iff.mpr deep

theorem filled?_platform_eq_none_iff (h : sources.IsSound) (platform : Platform)
    (environ : Environment) : sources.filled? platform.depth environ = none ↔
      sources.IsTooDeep platform.depth := by
  obtain ⟨depth, hdepth⟩ := platform.exists_depth
  rw [hdepth]
  exact filled?_eq_none_iff h environ

end Depth

end Sources

namespace Store

variable {platform : Platform} {tree : FileTree} {environ : Environment} {path : Path}
  {sources : Sources}

theorem result_merging (depth : Nat) (config : Config) (newer : Fields) :
    (merging depth config newer).result =
      (config.merge? depth newer).elim (.error ⟨.depth, config⟩) .ok := by
  unfold merging reaching
  cases config.merge? depth newer <;> rfl

theorem merge?_defaultFields (memory : Memory) (depth : Nat) :
    memory.merge? (depth + 2) defaultFields [] = some defaultFields := rfl

-- The file is read into an empty memory, and its fields are merged with the defaults.
theorem result_withFile (h : Supplies platform tree path [] sources.known sources.root)
    (hsound : sources.IsSound) : ∃ fields,
      sources.known.merge? platform.depth defaultFields sources.file = some fields ∧
        (withFile platform tree path { fields := defaultFields }).result =
          .ok { memory := sources.known, fields } := by
  obtain ⟨depth, hdepth⟩ := platform.exists_depth
  obtain ⟨config, hconfig⟩ := Option.isSome_iff_exists.mp (Sources.isSome_merged? hsound depth)
  obtain ⟨fields, hfields, -⟩ := Option.map_eq_some_iff.mp hconfig
  rw [← hdepth] at hfields
  refine ⟨fields, hfields, ?_⟩
  obtain ⟨known, root, loaded, given⟩ := sources
  cases h with
  | missing absent =>
      rw [hdepth] at hfields
      cases (merge?_defaultFields _ _).symm.trans hfields
      simp [withFile, reaching, absent, Except.mapError, Except.bind, Except.map]
  | given present content =>
      rw [Sources.file] at hfields
      simp [withFile, reaching, present, content, Except.mapError, Except.bind, result_merging,
        Config.merge?, hfields]

theorem fieldsOf_of_fields? {memory : Memory} {value : Data} {fields : Fields}
    (h : memory.fields? value = some fields) : memory.fieldsOf value = fields := by
  rw [Memory.fieldsOf, h, Option.getD_some]

-- The map of the environment's file once the overrides are taken out.
theorem fields?_opened {value : Data} (h : sources.taken? = some value) :
    sources.memory.fields? (sources.loaded.assign sources.given sources.others).2 =
      some sources.others := by
  rw [Sources.memory, h, Option.isSome_some, if_pos rfl]
  cases hgiven : sources.given with
  | shared place =>
      cases hfields : sources.loaded.fields? (.shared place) with
      | none =>
          rw [Sources.taken?, hgiven, Memory.fieldsOf, hfields] at h
          cases h
      | some fields => exact Memory.fields?_set_self hfields _
  | _ => rfl

theorem applyEnvironment_of_none (h : sources.taken? = none) (depth : Nat) (fields : Fields) :
    applyEnvironment depth { memory := sources.loaded, fields } sources.given =
      merging depth { memory := sources.loaded, fields } (sources.loaded.fieldsOf sources.given) := by
  rw [Sources.taken?] at h
  simp only [applyEnvironment, h]

theorem applyEnvironment_of_some {value : Data} (h : sources.taken? = some value) (depth : Nat)
    (fields : Fields) :
    applyEnvironment depth { memory := sources.loaded, fields } sources.given =
      reaching { memory := sources.memory, fields }
        ((sources.memory.fields? value).elim (.error .notSection) .ok) >>= fun overrides =>
          let config := Config.override { memory := sources.memory, fields } overrides
          merging depth config
            (config.memory.fieldsOf (sources.loaded.assign sources.given sources.others).2) := by
  have hmemory : sources.memory = (sources.loaded.assign sources.given sources.others).1 := by
    rw [Sources.memory, h, Option.isSome_some, if_pos rfl]
  rw [Sources.taken?] at h
  simp only [applyEnvironment, h, hmemory]
  rfl

theorem result_applyEnvironment_of_stray (hstray : sources.HasStrayOverrides) (depth : Nat)
    (fields : Fields) :
    (applyEnvironment depth { memory := sources.loaded, fields } sources.given).result =
      .error ⟨.notSection, { memory := sources.memory, fields }⟩ := by
  obtain ⟨value, htaken, hvalue⟩ := hstray
  rw [applyEnvironment_of_some htaken, hvalue]
  rfl

theorem result_applyEnvironment (hsound : sources.IsSound) (hstray : ¬ sources.HasStrayOverrides)
    {depth : Nat} {fields : Fields}
    (hconfig : sources.merged? (depth + 1) = some { memory := sources.memory, fields }) :
    (applyEnvironment (depth + 1) { memory := sources.loaded, fields } sources.given).result =
      (merging (depth + 1) (Config.override { memory := sources.memory, fields }
        sources.overrides) sources.others).result := by
  cases htaken : sources.taken? with
  | none =>
      have hmemory : sources.memory = sources.loaded := by
        rw [Sources.memory, htaken]
        rfl
      have hoverrides : sources.overrides = [] := by
        rw [Sources.overrides, htaken]
        rfl
      have hothers : sources.others = sources.loaded.fieldsOf sources.given :=
        Fields.erase_of_get?_eq_none htaken
      rw [applyEnvironment_of_none htaken, hoverrides, hothers, hmemory]
      rfl
  | some value =>
      have hoverrides : sources.memory.fields? value = some sources.overrides := by
        rw [Sources.overrides, htaken, Option.map_some, Option.getD_some, Memory.fieldsOf]
        cases hvalue : sources.memory.fields? value with
        | none => exact absurd ⟨value, htaken, hvalue⟩ hstray
        | some overrides => rfl
      have hagree := Sources.agreeFrom_overridden hsound
        (Sources.overridden?_eq_some.mpr ⟨_, hconfig, rfl⟩)
      have hroot : (sources.loaded.assign sources.given sources.others).2.isSound
          sources.known.length sources.loaded.length := by
        have hgiven := hsound.given
        generalize sources.given = given at hgiven
        cases given with
        | shared place => exact hgiven
        | _ => exact hsound.others
      have hopened := fields?_opened htaken
      -- The overrides change places of the file only.
      rw [← hagree.fields? hroot] at hopened
      rw [applyEnvironment_of_some htaken, hoverrides]
      simp [reaching, Except.mapError, Except.bind, fieldsOf_of_fields? hopened]

section Environment

variable {environment : String} {fields : Fields}
  (h : SuppliesNamed platform tree path sources.known environment sources.loaded sources.given)
include h

-- Without a file of its own an environment changes nothing.
theorem result_withEnvironment :
    (sources.loaded = sources.known ∧ sources.given = .map [] ∧
      (withEnvironment platform tree path environment { memory := sources.known, fields }).result =
        .ok { memory := sources.known, fields }) ∨
    (withEnvironment platform tree path environment { memory := sources.known, fields }).result =
      (applyEnvironment platform.depth { memory := sources.loaded, fields } sources.given).result := by
  obtain ⟨known, root, loaded, given⟩ := sources
  cases h with
  | unnamed => exact .inl ⟨rfl, rfl, rfl⟩
  | named name content =>
      cases content with
      | missing absent =>
          refine .inl ⟨rfl, rfl, ?_⟩
          simp [withEnvironment, name, reaching, absent, Except.mapError, Except.bind, Except.map]
      | given present content =>
          refine .inr ?_
          simp [withEnvironment, name, reaching, present, content, Except.mapError, Except.bind]

end Environment

section Load

variable {store : Store} (hpath : store.path = some path)
include hpath

theorem result_load_of_withFile {config : Config}
    (h : (withFile platform tree path { fields := defaultFields }).result = .ok config) :
    (store.load platform tree environ).2.result =
      ((withEnvironment platform tree path store.environment config).result.mapError
        (·.fault)).bind fun config =>
          (config.expand? environ platform.depth).elim (.error .depth) .ok := by
  simp only [load, loadConfig, hpath, Run.result_mapError, Run.result_bind, h, Except.bind]
  cases (withEnvironment platform tree path store.environment config).result with
  | error error => rfl
  | ok config =>
      cases hexpand : config.expand? environ platform.depth <;>
        simp [Except.mapError, reaching, hexpand]

variable (h : sources.Supplied platform tree path store.environment)
include h

theorem result_load_of_stray (hstray : sources.HasStrayOverrides) :
    (store.load platform tree environ).2.result = .error .notSection := by
  obtain ⟨fields, -, hfile⟩ := result_withFile h.file h.isSound
  obtain ⟨-, hgiven, -⟩ | henvironment := @result_withEnvironment _ _ _ _ _ fields h.environment
  · obtain ⟨value, htaken, -⟩ := hstray
    rw [Sources.taken?, hgiven] at htaken
    cases htaken
  · rw [result_applyEnvironment_of_stray hstray] at henvironment
    rw [result_load_of_withFile hpath hfile, henvironment]
    rfl

-- What loading comes to is what the sources are assembled to.
theorem result_load (hstray : ¬ sources.HasStrayOverrides) :
    (store.load platform tree environ).2.result =
      (sources.filled? platform.depth environ).elim (.error .depth) .ok := by
  have hsound := h.isSound
  obtain ⟨fields, hfields, hfile⟩ := result_withFile h.file hsound
  have hmerged : sources.merged? platform.depth = some { memory := sources.memory, fields } := by
    rw [Sources.merged?, hfields, Option.map_some]
  obtain ⟨depth, hdepth⟩ := platform.exists_depth
  rw [hdepth] at hmerged ⊢
  have hfilled : sources.filled? (depth + 2) environ =
      ((Config.override { memory := sources.memory, fields } sources.overrides).merge? (depth + 2)
        sources.others).bind (·.expand? environ (depth + 2)) := by
    rw [Sources.filled?, Sources.assembled?, Sources.overridden?, hmerged]
    rfl
  rw [hfilled]
  obtain ⟨hloaded, hgiven, henvironment⟩ | henvironment :=
    @result_withEnvironment _ _ _ _ _ fields h.environment
  · have htaken : sources.taken? = none := by rw [Sources.taken?, hgiven]; rfl
    have hmemory : sources.memory = sources.known := by rw [Sources.memory, htaken, hloaded]; rfl
    have hoverrides : sources.overrides = [] := by rw [Sources.overrides, htaken]; rfl
    have hothers : sources.others = [] := by rw [Sources.others, hgiven]; rfl
    have hcopy := Config.expand?_merge?_nil { memory := sources.known, fields } environ (depth + 1)
    rw [result_load_of_withFile hpath hfile, henvironment, hdepth, hmemory, hoverrides, hothers]
    exact (congrArg (Option.elim · _ _) hcopy).symm
  · rw [hdepth, result_applyEnvironment hsound hstray hmerged, result_merging] at henvironment
    rw [result_load_of_withFile hpath hfile, henvironment, hdepth]
    cases (Config.override { memory := sources.memory, fields } sources.overrides).merge?
      (depth + 2) sources.others <;> rfl

end Load

end Store

end Rehearsal
