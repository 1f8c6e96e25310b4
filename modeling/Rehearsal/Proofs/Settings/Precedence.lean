import Rehearsal.Proofs.Files.Tree
import Rehearsal.Proofs.Settings.Sources

namespace Rehearsal

namespace Sources

variable (sources : Sources)

-- The sections of a name are left out or maps.
def IsSectioned (name : Label) : Prop :=
  ∀ source ∈ [sources.others, sources.overrides, sources.file],
    sources.memory.IsSectioned source name

-- Every source leaves a key out or has something for it that is no map.
def IsPlain (name key : Label) : Prop :=
  ∀ source ∈ [sources.others, sources.overrides, sources.file],
    sources.memory.IsPlain (sources.memory.setting? source name key)

-- Labels under which one and the same map of the file stands. A section of the defaults is never
-- shared, since the file is merged into a copy of it.
def shares (name other : Label) : Bool :=
  name == other ||
    (defaultFields.get? name).isNone && (defaultFields.get? other).isNone &&
      Config.shares { fields := sources.file } name other

-- A place of the file that an override may change.
def IsOverridden (place : Nat) : Prop :=
  ∃ field ∈ sources.overrides, defaultFields.get? field.1.label = none ∧
    sources.file.get? field.1.label = some (.shared place)

-- The value of a key in the newest source that has one.
def newest? (name key : Label) : Option Data :=
  [sources.others, sources.overrides, sources.file, defaultFields].findSome?
    (sources.memory.setting? · name key)

-- The value that counts, where an override is one for all sections that share a map.
def decisive? (name key : Label) : Option Data :=
  (sources.memory.setting? sources.others name key).or
    ((sources.memory.lastGiven? (sources.shares name) key sources.overrides).or
      ((sources.memory.setting? sources.file name key).or
        (sources.memory.setting? defaultFields name key)))

-- No override for another section concerns a key, nor what its value refers to.
structure IsApart (name key : Label) : Prop where
  alone : ∀ field ∈ sources.overrides, sources.shares name field.1.label → name = field.1.label
  untouched : ∀ value place, sources.newest? name key = some value →
    sources.memory.Reaches value place → ¬ sources.IsOverridden place

variable {sources}

theorem shares_iff {name other : Label} : sources.shares name other ↔ name = other ∨
    defaultFields.get? name = none ∧ defaultFields.get? other = none ∧
      ∃ place, sources.file.get? name = some (.shared place) ∧
        sources.file.get? other = some (.shared place) := by
  simp only [shares, Bool.or_eq_true, Bool.and_eq_true, beq_iff_eq, Option.isNone_iff_eq_none,
    Config.shares_iff]
  tauto

theorem IsSound.fields?_file (h : sources.IsSound) {value : Data}
    (hvalue : value.isSound 0 sources.known.length) :
    sources.memory.fields? value = sources.known.fields? value := by
  cases value with
  | shared place =>
      rw [Data.isSound_shared] at hvalue
      rw [Memory.fields?, Memory.fields?, h.keeps place hvalue.2]
  | _ => rfl

theorem IsSound.of_get?_file (h : sources.IsSound) {label : Label} {value : Data}
    (hvalue : sources.file.get? label = some value) :
    value.isSound 0 sources.known.length := by
  obtain ⟨field, hfield, -, rfl⟩ := Fields.mem_of_get? hvalue
  exact (Data.isSound_map.mp h.file).2 field hfield

theorem setting?_congr {memory other : Memory} {fields : Fields} {name : Label}
    (h : ∀ value, fields.get? name = some value → other.fields? value = memory.fields? value)
    (key : Label) : other.setting? fields name key = memory.setting? fields name key := by
  unfold Memory.setting?
  cases hvalue : fields.get? name with
  | none => rfl
  | some value => rw [Option.bind_some, Option.bind_some, h value hvalue]

theorem IsSound.setting?_file (h : sources.IsSound) (name key : Label) :
    sources.memory.setting? sources.file name key =
      sources.known.setting? sources.file name key :=
  setting?_congr (fun _ hvalue => h.fields?_file (h.of_get?_file hvalue)) key

theorem IsSound.isPlain_file (h : sources.IsSound) {name key : Label}
    (hplain : sources.memory.IsPlain (sources.memory.setting? sources.file name key)) :
    sources.known.IsPlain (sources.known.setting? sources.file name key) := by
  intro value hvalue
  rw [← h.fields?_file (h.known.setting? h.file hvalue)]
  exact hplain value ((h.setting?_file name key).trans hvalue)

theorem exists_of_get?_defaultFields {name : Label} {value : Data}
    (h : defaultFields.get? name = some value) : ∃ fields, value = .map fields ∧
      ∀ field ∈ fields, ∃ scalar, field.2 = .scalar scalar := by
  obtain ⟨field, hfield, -, rfl⟩ := Fields.mem_of_get? h
  exact section_of_mem_defaultFields hfield

theorem isSectioned_defaultFields (memory : Memory) (name : Label) :
    memory.IsSectioned defaultFields name := by
  intro value hvalue
  obtain ⟨fields, rfl, -⟩ := exists_of_get?_defaultFields hvalue
  rfl

theorem setting?_defaultFields (memory other : Memory) (name key : Label) :
    other.setting? defaultFields name key = memory.setting? defaultFields name key := by
  apply setting?_congr
  intro value hvalue
  obtain ⟨fields, rfl, -⟩ := exists_of_get?_defaultFields hvalue
  rfl

theorem isPlain_defaultFields (memory : Memory) (name key : Label) :
    memory.IsPlain (memory.setting? defaultFields name key) := by
  intro value hvalue
  unfold Memory.setting? at hvalue
  obtain ⟨fields, hfields, hvalue⟩ := Option.bind_eq_some_iff.mp hvalue
  obtain ⟨content, hcontent, hfields⟩ := Option.bind_eq_some_iff.mp hfields
  obtain ⟨inner, rfl, hscalars⟩ := exists_of_get?_defaultFields hcontent
  cases hfields
  obtain ⟨entry, hentry, -, rfl⟩ := Fields.mem_of_get? hvalue
  obtain ⟨scalar, hscalar⟩ := hscalars entry hentry
  rw [hscalar]
  rfl

section Merged

variable {depth : Nat} {config : Config} (h : sources.IsSound)
  (hconfig : sources.merged? (depth + 1) = some config)
include h hconfig

theorem shares_merged {name : Label} (hname : sources.memory.IsSectioned sources.file name)
    (other : Label) : config.shares name other = sources.shares name other := by
  rw [Bool.eq_iff_iff, Config.shares_iff, shares_iff]
  refine or_congr_right ?_
  -- What stands under the name is a map, so it is merged with a default if there is one.
  have hmap : ∀ place, sources.file.get? name = some (.shared place) →
      sources.known.fields? (.shared place) ≠ none := by
    intro place hplace hnone
    rw [← h.fields?_file (h.of_get?_file hplace)] at hnone
    have hsome := hname _ hplace
    rw [hnone] at hsome
    cases hsome
  constructor
  · rintro ⟨place, hplace, hother⟩
    rw [get?_merged?_eq_shared h hconfig] at hplace hother
    obtain ⟨hplace, hdefault⟩ := hplace
    have hfields := hmap place hplace
    exact ⟨hdefault.resolve_right hfields, hother.2.resolve_right hfields, place, hplace, hother.1⟩
  · rintro ⟨hdefault, hotherDefault, place, hplace, hother⟩
    refine ⟨place, ?_, ?_⟩
    · exact (get?_merged?_eq_shared h hconfig).mpr ⟨hplace, .inl hdefault⟩
    · exact (get?_merged?_eq_shared h hconfig).mpr ⟨hother, .inl hotherDefault⟩

theorem fields?_merged {label : Label} {value : Data}
    (hvalue : config.fields.get? label = some value) :
    sources.memory.fields? value = sources.known.fields? value := by
  cases value with
  | shared place =>
      obtain ⟨hfile, -⟩ := (get?_merged?_eq_shared h hconfig).mp hvalue
      exact h.fields?_file (h.of_get?_file hfile)
  | _ => rfl

end Merged

-- The file counts, and else the defaults.
theorem setting?_merged {depth : Nat} {config : Config} (h : sources.IsSound)
    (hconfig : sources.merged? (depth + 2) = some config) {name : Label}
    (hname : sources.memory.IsSectioned sources.file name) :
    config.memory.IsSectioned config.fields name ∧ ∀ key,
      (config.setting? name key).isSome =
        ((sources.memory.setting? defaultFields name key).isSome ||
          (sources.memory.setting? sources.file name key).isSome) ∧
      (sources.memory.IsPlain (sources.memory.setting? sources.file name key) →
        config.setting? name key = (sources.memory.setting? sources.file name key).or
          (sources.memory.setting? defaultFields name key)) := by
  obtain ⟨fields, hfields, rfl⟩ := Option.map_eq_some_iff.mp hconfig
  have hknown : sources.known.IsSectioned sources.file name := by
    intro value hvalue
    rw [← h.fields?_file (h.of_get?_file hvalue)]
    exact hname value hvalue
  obtain ⟨hsection, hkeys⟩ := Memory.combines_setting? h.known h.file hfields
    (isSectioned_defaultFields _ name) hknown
  refine ⟨fun value hvalue => ?_, fun key => ?_⟩
  · exact fields?_merged h hconfig hvalue ▸ hsection value hvalue
  · have hkey := hkeys key
    have hsame : Config.setting? { memory := sources.memory, fields } name key =
        sources.known.setting? fields name key :=
      setting?_congr (fun _ hvalue => fields?_merged h hconfig hvalue) key
    rw [hsame, h.setting?_file, setting?_defaultFields sources.known]
    refine ⟨hkey.isSome, fun hplain => hkey.plain ?_ (isPlain_defaultFields _ name key)⟩
    rw [← h.setting?_file] at hplain
    exact h.isPlain_file hplain

section Overridden

variable {depth : Nat} {config : Config} (h : sources.IsSound)
  (hconfig : sources.merged? (depth + 2) = some config) {name : Label}
  (hname : sources.IsSectioned name)
include h hconfig hname

theorem fits_merged : Config.Fits sources.memory sources.known.length sources.loaded.length config
    sources.overrides name := by
  simp only [IsSectioned, List.forall_mem_cons] at hname
  exact ⟨isReady_merged h hconfig, h.overrides, (setting?_merged h hconfig hname.2.2.1).1,
    hname.2.1⟩

theorem setting?_overridden (key : Label) : (config.override sources.overrides).setting? name key =
    (sources.memory.lastGiven? (sources.shares name) key sources.overrides).or
      (config.setting? name key) := by
  have hfits := fits_merged h hconfig hname
  simp only [IsSectioned, List.forall_mem_cons] at hname
  have hshares : config.shares name = sources.shares name :=
    funext fun other => shares_merged h hconfig hname.2.2.1 other
  rw [← hshares]
  exact Config.setting?_override h.holds hfits key

end Overridden

theorem filled?_eq_some {depth : Nat} {environ : Environment} {config : Config} :
    sources.filled? depth environ = some config ↔ ∃ merged assembled,
      sources.merged? depth = some merged ∧
        (merged.override sources.overrides).merge? depth sources.others = some assembled ∧
          assembled.expand? environ depth = some config := by
  simp only [filled?, assembled?, overridden?, Option.bind_eq_some_iff, Option.map_eq_some_iff]
  constructor
  · rintro ⟨assembled, ⟨_, ⟨merged, hmerged, rfl⟩, hassembled⟩, hexpanded⟩
    exact ⟨merged, assembled, hmerged, hassembled, hexpanded⟩
  · rintro ⟨merged, assembled, hmerged, hassembled, hexpanded⟩
    exact ⟨assembled, ⟨_, ⟨merged, hmerged, rfl⟩, hassembled⟩, hexpanded⟩

section Others

variable {after : Memory} (h : sources.IsSound)
  (hagree : sources.memory.AgreeFrom sources.known.length after)
include h hagree

theorem fields?_others {label : Label} {value : Data}
    (hvalue : sources.others.get? label = some value) :
    after.fields? value = sources.memory.fields? value := by
  obtain ⟨field, hfield, -, rfl⟩ := Fields.mem_of_get? hvalue
  exact hagree.fields? ((Data.isSound_map.mp h.others).2 field hfield)

theorem setting?_others (name key : Label) : after.setting? sources.others name key =
    sources.memory.setting? sources.others name key :=
  setting?_congr (fun _ hvalue => fields?_others h hagree hvalue) key

theorem isPlain_others {name key : Label}
    (hplain : sources.memory.IsPlain (sources.memory.setting? sources.others name key)) :
    after.IsPlain (after.setting? sources.others name key) := by
  intro value hvalue
  rw [setting?_others h hagree] at hvalue
  rw [hagree.fields? (h.holds.setting? h.others hvalue)]
  exact hplain value hvalue

end Others

theorem rel_of_bind_eq {expand : Data → Option Data} {value other result : Option Data}
    (hsome : value.isSome = other.isSome) (hbind : value.bind expand = other.bind expand)
    (h : Option.Rel (fun content read => expand content = some read) value result) :
    Option.Rel (fun content read => expand content = some read) other result := by
  cases h with
  | none =>
      cases other with
      | none => exact .none
      | some other => cases hsome
  | some hread =>
      cases other with
      | none => cases hsome
      | some other => exact .some (hbind.symm.trans hread)

section Filled

variable {depth : Nat} {environ : Environment} {config : Config} (h : sources.IsSound)
  (hfilled : sources.filled? (depth + 2) environ = some config) {name : Label}
  (hname : sources.IsSectioned name)
include h hfilled hname

-- What stands for a key once all is assembled, and what is made of it in the end.
theorem setting?_filled (key : Label) : ∃ value,
    (value.isSome = (sources.decisive? name key).isSome) ∧
      (sources.memory.IsPlain (sources.memory.setting? sources.others name key) →
        sources.memory.IsPlain (sources.memory.setting? sources.file name key) →
          value.bind (config.memory.expand? environ depth) =
            (sources.decisive? name key).bind (config.memory.expand? environ depth)) ∧
      Option.Rel (fun value read => config.memory.expand? environ depth value = some read) value
        (config.setting? name key) := by
  obtain ⟨merged, assembled, hmerged, hassembled, hexpanded⟩ := filled?_eq_some.mp hfilled
  have hsection := Config.isSectioned_override (fits_merged h hmerged hname)
  have hoverridden := setting?_overridden h hmerged hname
  have hagree := agreeFrom_overridden h (overridden?_eq_some.mpr ⟨merged, hmerged, rfl⟩)
  generalize merged.override sources.overrides = overridden at *
  obtain ⟨fields, hfields, rfl⟩ := Option.map_eq_some_iff.mp hassembled
  rw [Config.expand?_eq] at hexpanded
  obtain ⟨expanded, hexpand, rfl⟩ := Option.map_eq_some_iff.mp hexpanded
  simp only [IsSectioned, List.forall_mem_cons] at hname
  obtain ⟨hothers, -, hfile, -⟩ := hname
  have hnewer : overridden.memory.IsSectioned sources.others name := by
    intro value hvalue
    rw [fields?_others h hagree hvalue]
    exact hothers value hvalue
  have hcombines := (Memory.combines_setting? (hagree.holds h.holds) h.others hfields hsection
    hnewer).2 key
  obtain ⟨hsome, hplain⟩ := (setting?_merged h hmerged hfile).2 key
  change Memory.Combines _ (overridden.setting? name key) _ _ at hcombines
  rw [setting?_others h hagree, hoverridden key] at hcombines
  refine ⟨overridden.memory.setting? fields name key, ?_, fun hothers hfile => ?_,
    Memory.rel_setting?_expandFields? hexpand name key⟩
  · rw [hcombines.isSome]
    simp only [decisive?, Option.isSome_or, hsome]
    ac_rfl
  · rw [hplain hfile] at hcombines
    refine hcombines.alike ?_ environ depth
    rw [← setting?_others h hagree]
    exact isPlain_others h hagree hothers

theorem isSome_setting?_filled (key : Label) :
    (config.setting? name key).isSome = (sources.decisive? name key).isSome := by
  obtain ⟨value, hsome, -, hrel⟩ := setting?_filled h hfilled hname key
  rw [← hsome]
  generalize config.setting? name key = result at hrel
  cases hrel <;> rfl

theorem rel_setting?_filled {key : Label} (hplain : sources.IsPlain name key) :
    Option.Rel (fun value read => config.memory.expand? environ depth value = some read)
      (sources.decisive? name key) (config.setting? name key) := by
  simp only [IsPlain, List.forall_mem_cons] at hplain
  obtain ⟨hothers, -, hfile, -⟩ := hplain
  obtain ⟨value, hsome, hbind, hrel⟩ := setting?_filled h hfilled hname key
  exact rel_of_bind_eq hsome (hbind hothers hfile) hrel

end Filled

theorem memory_merged {depth : Nat} {config : Config}
    (hconfig : sources.merged? depth = some config) : config.memory = sources.memory := by
  obtain ⟨fields, -, rfl⟩ := Option.map_eq_some_iff.mp hconfig
  rfl

-- Only the overrides change what is shared.
theorem memory_filled {depth : Nat} {environ : Environment} {config : Config}
    (hfilled : sources.filled? depth environ = some config) : ∃ merged,
      sources.merged? depth = some merged ∧
        config.memory = (merged.override sources.overrides).memory := by
  obtain ⟨merged, assembled, hmerged, hassembled, hexpanded⟩ := filled?_eq_some.mp hfilled
  obtain ⟨fields, -, rfl⟩ := Option.map_eq_some_iff.mp hassembled
  obtain ⟨expanded, -, rfl⟩ := Option.map_eq_some_iff.mp hexpanded
  exact ⟨merged, hmerged, rfl⟩

theorem isSome_fields?_filled {depth : Nat} {environ : Environment} {config : Config}
    (hfilled : sources.filled? depth environ = some config) (value : Data) :
    (config.memory.fields? value).isSome = (sources.memory.fields? value).isSome := by
  obtain ⟨merged, hmerged, hmemory⟩ := memory_filled hfilled
  rw [hmemory, Config.isSome_fields?_override, memory_merged hmerged]

theorem look_filled {depth : Nat} {environ : Environment} {config : Config} (h : sources.IsSound)
    (hfilled : sources.filled? (depth + 2) environ = some config) {place : Nat}
    (hplace : sources.IsOverridden place → sources.memory.fields? (.shared place) = none) :
    config.memory.look (.shared place) = sources.memory.look (.shared place) := by
  obtain ⟨merged, hmerged, hmemory⟩ := memory_filled hfilled
  rw [hmemory, Config.look_override (Data.isSound_map.mp h.overrides).1, memory_merged hmerged]
  intro field hfield hshared
  rw [memory_merged hmerged]
  obtain ⟨hfile, hdefault | hknown⟩ := (get?_merged?_eq_shared h hmerged).mp hshared
  · exact hplace ⟨field, hfield, hdefault, hfile⟩
  · rw [h.fields?_file (h.of_get?_file hfile), hknown]

theorem setting?_of_get? {config : Config} {name : Label} {value : Data}
    (h : config.fields.get? name = some value) (key : Label) :
    config.setting? name key = (config.memory.fieldsOf value).get? key := by
  rw [Config.setting?_eq, h, Option.bind_some, Memory.fieldsOf]
  cases config.memory.fields? value <;> rfl

-- A map of the file is changed for all that refer to it.
theorem fieldsOf_filled {depth : Nat} {environ : Environment} {config : Config}
    (h : sources.IsSound) (hfilled : sources.filled? (depth + 2) environ = some config)
    {name : Label} {place : Nat} (hname : sources.IsSectioned name)
    (hdefault : defaultFields.get? name = none)
    (hplace : sources.file.get? name = some (.shared place)) (key : Label) :
    (config.memory.fieldsOf (.shared place)).get? key =
      (sources.memory.lastGiven? (sources.shares name) key sources.overrides).or
        ((sources.memory.fieldsOf (.shared place)).get? key) := by
  obtain ⟨merged, hmerged, hmemory⟩ := memory_filled hfilled
  have hbefore := (get?_merged?_eq_shared h hmerged).mpr ⟨hplace, .inl hdefault⟩
  have hafter := Config.get?_override_of_shared (fits_merged h hmerged hname) hbefore
  have hlaw := setting?_overridden h hmerged hname key
  rwa [setting?_of_get? hafter, setting?_of_get? hbefore, ← hmemory, memory_merged hmerged] at hlaw

theorem newest?_eq (sources : Sources) (name key : Label) : sources.newest? name key =
    (sources.memory.setting? sources.others name key).or
      ((sources.memory.setting? sources.overrides name key).or
        ((sources.memory.setting? sources.file name key).or
          (sources.memory.setting? defaultFields name key))) := by
  simp only [newest?, List.findSome?_cons, List.findSome?_nil]
  cases sources.memory.setting? sources.others name key <;>
    cases sources.memory.setting? sources.overrides name key <;>
    cases sources.memory.setting? sources.file name key <;>
    cases sources.memory.setting? defaultFields name key <;> rfl

theorem decisive?_eq_newest? (h : sources.IsSound) {name : Label}
    (halone : ∀ field ∈ sources.overrides, sources.shares name field.1.label →
      name = field.1.label) (key : Label) : sources.decisive? name key = sources.newest? name key := by
  have hmeant : ∀ field ∈ sources.overrides,
      sources.shares name field.1.label = (name == field.1.label) := by
    intro field hfield
    rw [Bool.eq_iff_iff, beq_iff_eq]
    exact ⟨halone field hfield, fun heq => shares_iff.mpr (.inl heq)⟩
  rw [decisive?, newest?_eq, Memory.lastGiven?_congr hmeant,
    Memory.lastGiven?_self (Data.isSound_map.mp h.overrides).1]

-- Nothing is shared with a section of the defaults.
theorem decisive?_of_default (h : sources.IsSound) {name key : Label} {value : Data}
    (hvalue : sources.memory.setting? defaultFields name key = some value)
    (habsent : ∀ source ∈ [sources.others, sources.overrides, sources.file],
      sources.memory.setting? source name key = none) :
    sources.decisive? name key = some value := by
  simp only [List.forall_mem_cons] at habsent
  rw [decisive?_eq_newest? h, newest?_eq, habsent.1, habsent.2.1, habsent.2.2.1, hvalue]
  · rfl
  · intro field _ hshares
    obtain hname | ⟨hdefault, -⟩ := shares_iff.mp hshares
    · exact hname
    · rw [Memory.setting?, hdefault] at hvalue
      cases hvalue

theorem isSome_decisive? (h : sources.IsSound) {name key : Label}
    (hsome : (sources.newest? name key).isSome) : (sources.decisive? name key).isSome := by
  have hself : ∀ label, name == label → sources.shares name label := by
    intro label hlabel
    exact shares_iff.mpr (.inl (eq_of_beq hlabel))
  rw [newest?_eq, ← Memory.lastGiven?_self (Data.isSound_map.mp h.overrides).1] at hsome
  simp only [decisive?, Option.isSome_or, Bool.or_eq_true] at hsome ⊢
  exact hsome.imp_right (.imp_left (Memory.isSome_lastGiven? hself))

theorem isSome_newest? {name key : Label} : (sources.newest? name key).isSome ↔
    ∃ source ∈ [sources.others, sources.overrides, sources.file, defaultFields],
      (sources.memory.setting? source name key).isSome := by
  rw [newest?, List.findSome?_isSome_iff]

-- A default that stays is not changed by the variables.
theorem eq_of_expand?_default {memory : Memory} {environ : Environment} {depth : Nat}
    {name key : Label} {value read : Data}
    (hvalue : memory.setting? defaultFields name key = some value)
    (h : memory.expand? environ depth value = some read) : read = value := by
  cases depth with
  | zero => cases h
  | succ depth =>
      have hself : memory.expandFields? environ (depth + 2) defaultFields = some defaultFields := rfl
      have hrel := Memory.rel_setting?_expandFields? hself name key
      rw [hvalue] at hrel
      cases hrel with
      | some hread => exact Option.some.inj (h.symm.trans hread)

section Newest

variable {depth : Nat} {environ : Environment} {config : Config} {name key : Label}
  (h : sources.IsSound) (hfilled : sources.filled? (depth + 2) environ = some config)
  (hname : sources.IsSectioned name)

include h hfilled hname

-- Without an override for another name of the same map, what is read is what the sources hold.
theorem rel_newest?_filled (hplain : sources.IsPlain name key) (hapart : sources.IsApart name key) :
    Option.Rel (sources.memory.StandsFor environ) (sources.newest? name key)
      (config.setting? name key) := by
  have hread := rel_setting?_filled h hfilled hname hplain
  rw [decisive?_eq_newest? h hapart.alone] at hread
  have huntouched := hapart.untouched
  generalize sources.newest? name key = newest at hread huntouched
  generalize config.setting? name key = result at hread
  cases hread with
  | none => exact .none
  | @some value _ hread =>
      rw [Memory.expand?_congr fun place hplace => look_filled h hfilled
        fun hoverridden => absurd hoverridden (huntouched value place rfl hplace)] at hread
      exact .some (Memory.standsFor_of_expand? hread)

theorem setting?_filled_of_default {value : Data}
    (hvalue : sources.memory.setting? defaultFields name key = some value)
    (habsent : ∀ source ∈ [sources.others, sources.overrides, sources.file],
      sources.memory.setting? source name key = none) : config.setting? name key = some value := by
  have hplain : sources.IsPlain name key := by
    intro source hsource
    rw [habsent source hsource]
    exact sources.memory.isPlain_none
  have hread := rel_setting?_filled h hfilled hname hplain
  rw [decisive?_of_default h hvalue habsent] at hread
  rw [setting?_defaultFields config.memory] at hvalue
  generalize config.setting? name key = result at hread
  cases hread with
  | some hread => rw [eq_of_expand?_default hvalue hread]

end Newest

theorem isSome_get?_merge? {memory : Memory} {depth : Nat} {base newer result : Fields}
    (hlabels : newer.labels.Nodup) (h : memory.merge? (depth + 1) base newer = some result)
    (label : Label) :
    (result.get? label).isSome = ((base.get? label).isSome || (newer.get? label).isSome) :=
  (Memory.merged_merge? hlabels h label).combines.isSome

theorem isSome_get?_filled {depth : Nat} {environ : Environment} {config : Config}
    (h : sources.IsSound) (hfilled : sources.filled? (depth + 2) environ = some config)
    (name : Label) : (config.fields.get? name).isSome ↔
      ∃ source ∈ [sources.others, sources.overrides, sources.file, defaultFields],
        (source.get? name).isSome := by
  obtain ⟨merged, assembled, hmerged, hassembled, hexpanded⟩ := filled?_eq_some.mp hfilled
  obtain ⟨fields, hfields, rfl⟩ := Option.map_eq_some_iff.mp hmerged
  obtain ⟨combined, hcombined, rfl⟩ := Option.map_eq_some_iff.mp hassembled
  rw [Config.expand?_eq] at hexpanded
  obtain ⟨expanded, hexpand, rfl⟩ := Option.map_eq_some_iff.mp hexpanded
  have hread : (expanded.get? name).isSome = (combined.get? name).isSome := by
    have hrel := Memory.rel_get?_expandFields? hexpand name
    generalize expanded.get? name = after at hrel
    generalize combined.get? name = before at hrel
    cases hrel <;> rfl
  rw [hread, isSome_get?_merge? (Data.isSound_map.mp h.others).1 hcombined,
    Config.isSome_get?_override, isSome_get?_merge? (Data.isSound_map.mp h.file).1 hfields]
  simp only [Bool.or_eq_true, List.mem_cons, List.not_mem_nil, or_false, exists_eq_or_imp,
    exists_eq_left]
  tauto

end Sources

namespace Store

theorem config_of_load {platform : Platform} {tree : FileTree} {environ : Environment}
    {store : Store} {config : Config}
    (h : (store.load platform tree environ).2.result = .ok config) :
    (store.load platform tree environ).1.config = config := by
  have hresult : (store.loadConfig platform tree environ).result = .ok config :=
    Result.mapError_eq_ok.mp h
  simp only [load, hresult]

theorem standsFor_of_rel {memory : Memory} {environ : Environment} {depth : Nat}
    {value result : Option Data}
    (h : Option.Rel (fun content read => memory.expand? environ depth content = some read) value
      result) : Option.Rel (memory.StandsFor environ) value result := by
  cases h with
  | none => exact .none
  | some hread => exact .some (Memory.standsFor_of_expand? hread)

-- A key of a section has the value of the newest source that has one: the environment, its
-- overrides, the file, the defaults. References stand for the variables that they name. Overrides
-- are an exception: they change a map of the file wherever the file refers to it.
theorem load_precedence {platform : Platform} {tree : FileTree} {environ : Environment}
    {store : Store} {path : Path} {sources : Sources} (hpath : store.path = some path)
    (h : sources.Supplied platform tree path store.environment)
    (hoverrides : ¬ sources.HasStrayOverrides) :
    ((store.load platform tree environ).2.result = .error .depth ↔
      sources.IsTooDeep platform.depth) ∧
    (¬ sources.IsTooDeep platform.depth → ∃ config,
      (store.load platform tree environ).2.result = .ok config ∧
      (store.load platform tree environ).1.config = config ∧
      (∀ name, sources.IsSectioned name →
        (∀ key, sources.IsPlain name key →
          Option.Rel (config.memory.StandsFor environ) (sources.decisive? name key)
            (config.setting? name key)) ∧
        (∀ key, sources.IsPlain name key → sources.IsApart name key →
          Option.Rel (sources.memory.StandsFor environ) (sources.newest? name key)
            (config.setting? name key)) ∧
        (∀ key, (∃ source ∈ [sources.others, sources.overrides, sources.file, defaultFields],
            (sources.memory.setting? source name key).isSome) →
          (config.setting? name key).isSome) ∧
        (∀ key value, sources.memory.setting? defaultFields name key = some value →
          (∀ source ∈ [sources.others, sources.overrides, sources.file],
            sources.memory.setting? source name key = none) →
          config.setting? name key = some value)) ∧
      (∀ place, ¬ sources.IsOverridden place →
        config.memory.look (.shared place) = sources.memory.look (.shared place)) ∧
      (∀ name place, sources.IsSectioned name → defaultFields.get? name = none →
        sources.file.get? name = some (.shared place) → ∀ key,
          (config.memory.fieldsOf (.shared place)).get? key =
            (sources.memory.lastGiven? (sources.shares name) key sources.overrides).or
              ((sources.memory.fieldsOf (.shared place)).get? key)) ∧
      ∀ name, (∃ source ∈ [sources.others, sources.overrides, sources.file, defaultFields],
        (source.get? name).isSome) → (config.fields.get? name).isSome) := by
  have hsound := h.isSound
  have hload := @result_load platform tree environ path sources store hpath h hoverrides
  obtain ⟨depth, hdepth⟩ := platform.exists_depth
  rw [hdepth] at hload ⊢
  have hdeep := @Sources.filled?_eq_none_iff sources depth hsound environ
  cases hfilled : sources.filled? (depth + 2) environ with
  | none =>
      rw [hfilled] at hload
      have htooDeep := hdeep.mp hfilled
      exact ⟨iff_of_true hload htooDeep, fun hnot => absurd htooDeep hnot⟩
  | some config =>
      rw [hfilled] at hload
      have hnotDeep : ¬ sources.IsTooDeep (depth + 2) := by
        rw [← hdeep, hfilled]
        simp
      refine ⟨iff_of_false (by simp [hload]) hnotDeep, fun _ => ⟨config, hload,
        config_of_load hload, fun name hname => ⟨fun key hplain => ?_,
          fun key => Sources.rel_newest?_filled hsound hfilled hname, fun key hsome => ?_,
          fun key value => Sources.setting?_filled_of_default hsound hfilled hname⟩,
        fun place hplace => Sources.look_filled hsound hfilled fun h => absurd h hplace,
        fun name place => Sources.fieldsOf_filled hsound hfilled,
        fun name => (Sources.isSome_get?_filled hsound hfilled name).mpr⟩⟩
      · exact standsFor_of_rel (Sources.rel_setting?_filled hsound hfilled hname hplain)
      · rw [Sources.isSome_setting?_filled hsound hfilled hname]
        exact Sources.isSome_decisive? hsound (Sources.isSome_newest?.mpr hsome)

theorem supplies_of_text {platform : Platform} {tree : FileTree} {path : Path}
    {place : List String} {memory : Memory} {text : String} {document : Content memory.length}
    {fields : Fields} (hlocate : tree.locate path = .ok place)
    (hnode : tree.node? place = some (.file text.toUTF8))
    (hread : platform.read memory.length (String.ofList (Text.feeds text.toList)) = .ok document)
    (hmap : Memory.look (memory ++ document.memory) document.root = .map fields) :
    Supplies platform tree path memory (memory ++ document.memory) document.root := by
  apply Supplies.given
  · simp [isThere, FileTree.isThere, hlocate, hnode, Except.mapError]
  · rw [readFile, FileTree.read_of_node? hlocate hnode]
    simp [Except.mapError, bind, Except.bind, hread, hmap]

-- Two sections that are one map, and an override for one of them.
def twins (next : Nat) : Content next where
  memory := [.map [(.text "k", .scalar (.int 1))],
    .map [(.text "a", .shared next), (.text "b", .shared next)]]
  root := .shared (next + 1)
  sound := by simp [Data.isSound, haveSound, Fields.hasTwice, Fields.get?, Scalar.label]

def changing (next : Nat) : Content next where
  memory := [.map [(.text "k", .scalar (.int 2))], .map [(.text "a", .shared next)],
    .map [(.text "overrides", .shared (next + 1))]]
  root := .shared (next + 2)
  sound := by simp [Data.isSound, haveSound, Fields.hasTwice, Fields.get?]

def twinReader : Platform where
  read next text :=
    if text = "a: &x \x7bk: 1\x7d\nb: *x\n" then .ok (twins next)
    else if text = "overrides: \x7ba: \x7bk: 2\x7d\x7d\n" then .ok (changing next)
    else .error .invalid
  print text := text ++ "\n"
  depth := commonDepth
  roomy := le_commonDepth
  writingDepth := commonDepth

def twinFiles : FileTree :=
  ⟨[(["c.yaml"], .file "a: &x \x7bk: 1\x7d\nb: *x\n".toUTF8),
    (["environments"], .directory),
    (["environments", "e.yaml"], .file "overrides: \x7ba: \x7bk: 2\x7d\x7d\n".toUTF8)]⟩

def twinSources : Sources where
  known := (twins 0).memory
  root := (twins 0).root
  loaded := (twins 0).memory ++ (changing 2).memory
  given := (changing 2).root

theorem supplied_twinSources :
    twinSources.Supplied twinReader twinFiles (Path.ofString "c.yaml") "e" where
  file := by
    have hlocate : twinFiles.locate (Path.ofString "c.yaml") = .ok ["c.yaml"] :=
      FileTree.locate_eq_ok.mpr ⟨by decide, by decide, rfl⟩
    exact @supplies_of_text twinReader _ _ _ [] _ (twins 0) _ hlocate rfl rfl rfl
  environment := by
    have hlocate : twinFiles.locate (environmentPath (Path.ofString "c.yaml") "e") =
        .ok ["environments", "e.yaml"] := FileTree.locate_eq_ok.mpr ⟨by decide, by decide, rfl⟩
    exact .named (by decide) (supplies_of_text hlocate rfl rfl rfl)

theorem not_hasStrayOverrides_twinSources : ¬ twinSources.HasStrayOverrides := by
  rintro ⟨value, htaken, hvalue⟩
  cases htaken
  cases hvalue

theorem isSectioned_twinSources {name : Label}
    (h : name = .text "a" ∨ name = .text "b" ∨ name = .text "generator") :
    twinSources.IsSectioned name := by
  intro source hsource value hvalue
  simp only [List.mem_cons, List.not_mem_nil, or_false] at hsource
  obtain rfl | rfl | rfl := h <;> obtain rfl | rfl | rfl := hsource <;> cases hvalue <;> rfl

theorem isPlain_twinSources {name : Label} (h : name = .text "a" ∨ name = .text "b") :
    twinSources.IsPlain name (.text "k") := by
  intro source hsource value hvalue
  simp only [List.mem_cons, List.not_mem_nil, or_false] at hsource
  obtain rfl | rfl := h <;> obtain rfl | rfl | rfl := hsource <;> cases hvalue <;> rfl

theorem eq_of_standsFor_int {memory : Memory} {environ : Environment} {number : Int}
    {result : Option Data}
    (h : Option.Rel (memory.StandsFor environ) (some (.scalar (.int number))) result) :
    result = some (.scalar (.int number)) := by
  cases h with
  | some hstands =>
      cases hstands with
      | other _ _ _ => rfl
      | text isText _ => cases isText
      | list isList _ => cases isList
      | map isMap _ _ => cases isMap

-- The override is for one section, and the other one has its value as well.
theorem load_precedence_twins : ∃ config,
    ((ofNames (some "c.yaml") (some "e")).load twinReader twinFiles []).2.result = .ok config ∧
      config.setting? (.text "a") (.text "k") = some (.scalar (.int 2)) ∧
      config.setting? (.text "b") (.text "k") = some (.scalar (.int 2)) ∧
      config.setting? (.text "generator") (.text "kind") = some (.text "retry") := by
  obtain ⟨-, hload⟩ := @load_precedence twinReader twinFiles [] (ofNames (some "c.yaml") (some "e"))
    (Path.ofString "c.yaml") twinSources rfl supplied_twinSources
    not_hasStrayOverrides_twinSources
  have hdeep : ¬ twinSources.IsTooDeep twinReader.depth := by
    rw [← Sources.filled?_platform_eq_none_iff supplied_twinSources.isSound twinReader [], ← Ne,
      ← Option.isSome_iff_ne_none]
    rfl
  obtain ⟨config, hresult, -, hsections, -⟩ := hload hdeep
  have ha := hsections (.text "a") (isSectioned_twinSources (.inl rfl))
  have hb := hsections (.text "b") (isSectioned_twinSources (.inr (.inl rfl)))
  have hgenerator := hsections (.text "generator") (isSectioned_twinSources (.inr (.inr rfl)))
  have hapart : twinSources.IsApart (.text "a") (.text "k") := by
    refine ⟨fun field hfield _ => ?_, fun value place hvalue hreaches => ?_⟩
    · obtain rfl : field = (.text "a", .shared 2) := List.mem_singleton.mp hfield
      rfl
    · obtain rfl : value = .scalar (.int 2) := (Option.some.inj hvalue).symm
      cases hreaches with
      | part mem _ => cases mem
  refine ⟨config, hresult, ?_, ?_, hgenerator.2.2.2 (.text "kind") _ rfl ?_⟩
  · exact eq_of_standsFor_int (ha.2.1 (.text "k") (isPlain_twinSources (.inl rfl)) hapart)
  · exact eq_of_standsFor_int (hb.1 (.text "k") (isPlain_twinSources (.inr rfl)))
  · intro source hsource
    simp only [List.mem_cons, List.not_mem_nil, or_false] at hsource
    obtain rfl | rfl | rfl := hsource <;> rfl

theorem load_changes_twin : ∃ config,
    ((ofNames (some "c.yaml") (some "e")).load twinReader twinFiles []).2.result = .ok config ∧
      twinSources.IsSectioned (.text "b") ∧ twinSources.IsPlain (.text "b") (.text "k") ∧
      config.setting? (.text "b") (.text "k") = some (.scalar (.int 2)) ∧
      twinSources.newest? (.text "b") (.text "k") = some (.scalar (.int 1)) := by
  have hload := @result_load twinReader twinFiles [] (Path.ofString "c.yaml") twinSources
    (ofNames (some "c.yaml") (some "e")) rfl supplied_twinSources
    not_hasStrayOverrides_twinSources
  have hsetting : (twinSources.filled? commonDepth []).bind (·.setting? (.text "b") (.text "k")) =
      some (.scalar (.int 2)) := rfl
  obtain ⟨config, hfilled, hvalue⟩ := Option.bind_eq_some_iff.mp hsetting
  refine ⟨config, ?_, isSectioned_twinSources (.inr (.inl rfl)), isPlain_twinSources (.inr rfl),
    hvalue, rfl⟩
  rw [hload]
  exact congrArg (Option.elim · _ _) hfilled

end Store

end Rehearsal
