import Rehearsal.Proofs.Settings.Precedence
import Rehearsal.Proofs.Settings.Writing

namespace Rehearsal

theorem SettingsFault.ofData_injective {fault other : Data.Fault} (h : ofData fault = ofData other) :
    fault = other := by
  cases fault <;> cases other <;> first | rfl | cases h

namespace Settings

variable {α β : Type}

-- A reading that breaks off exactly where something cannot be written. Where all can, it succeeds
-- or says which value is wrong.
structure StumblesOn (reading : Except SettingsFault α) (trouble : Data.Fault → Prop) : Prop where
  fault : ∀ fault, reading = .error (.ofData fault) → trouble fault
  stops : ∀ fault, trouble fault → ∃ other, reading = .error (.ofData other)
  told : (∀ fault, ¬ trouble fault) → (∃ a, reading = .ok a) ∨
    ∃ value key allowed, reading = .error (.invalidValue value key allowed)

theorem StumblesOn.ne_notSection {reading : Except SettingsFault α} {trouble : Data.Fault → Prop}
    (h : StumblesOn reading trouble) : reading ≠ .error .notSection := by
  rintro rfl
  by_cases htrouble : ∃ fault, trouble fault
  · obtain ⟨fault, hfault⟩ := htrouble
    obtain ⟨other, hother⟩ := h.stops fault hfault
    cases other <;> cases hother
  · obtain ⟨a, ha⟩ | ⟨value, key, allowed, hinvalid⟩ := h.told (not_exists.mp htrouble)
    · cases ha
    · cases hinvalid

theorem stumblesOn_ok (a : α) : StumblesOn (.ok a) fun _ => False where
  fault _ h := by cases h
  stops _ h := h.elim
  told _ := .inl ⟨a, rfl⟩

theorem StumblesOn.congr {reading : Except SettingsFault α} {trouble other : Data.Fault → Prop}
    (h : StumblesOn reading trouble) (hiff : ∀ fault, trouble fault ↔ other fault) :
    StumblesOn reading other := by
  obtain rfl : trouble = other := funext fun fault => propext (hiff fault)
  exact h

section Steps

variable {platform : Platform} {memory : Memory} {value : Data}

theorem textOf_eq (platform : Platform) (memory : Memory) (value : Data) :
    (∃ text, memory.plain platform.writingDepth value = .ok text ∧
      textOf platform memory value = .ok text) ∨
    ∃ fault, memory.StopsAlone platform.writingDepth value fault ∧
      textOf platform memory value = .error (.ofData fault) := by
  unfold textOf
  cases hplain : memory.plain platform.writingDepth value with
  | ok text => exact .inl ⟨text, rfl, rfl⟩
  | error fault => exact .inr ⟨fault, Memory.stopsAlone_of_plain hplain, rfl⟩

-- A text is needed, and what comes after depends on it.
theorem stumblesOn_textOf_bind {next : String → Except SettingsFault β}
    {after : String → Data.Fault → Prop}
    (hnext : ∀ text, memory.plain platform.writingDepth value = .ok text →
      StumblesOn (next text) (after text)) :
    StumblesOn (textOf platform memory value >>= next) fun fault =>
      memory.StopsAlone platform.writingDepth value fault ∨
        ∃ text, memory.plain platform.writingDepth value = .ok text ∧ after text fault := by
  obtain ⟨text, hplain, htext⟩ | ⟨fault, hstops, htext⟩ := textOf_eq platform memory value
  · have hgoes : ∀ fault, ¬ memory.StopsAlone platform.writingDepth value fault := by
      intro fault hstops
      obtain ⟨other, hother⟩ := Memory.plain_of_stopsAlone hstops
      cases hplain.symm.trans hother
    have hread := hnext text hplain
    rw [htext]
    refine ⟨fun fault h => .inr ⟨text, hplain, hread.fault fault h⟩, fun fault h => ?_, fun h => ?_⟩
    · obtain ⟨other, hother, hafter⟩ := h.resolve_left (hgoes fault)
      cases hplain.symm.trans hother
      exact hread.stops fault hafter
    · exact hread.told fun fault hafter => h fault (.inr ⟨text, hplain, hafter⟩)
  · rw [htext]
    refine ⟨fun other h => .inl ?_, fun _ _ => ⟨fault, rfl⟩, fun h => absurd (.inl hstops) (h fault)⟩
    rwa [SettingsFault.ofData_injective (Except.error.inj h)] at hstops

theorem stumblesOn_textOf_then {next : String → Except SettingsFault β}
    {after : Data.Fault → Prop} (hnext : ∀ text, StumblesOn (next text) after) :
    StumblesOn (textOf platform memory value >>= next) fun fault =>
      memory.StopsAlone platform.writingDepth value fault ∨ after fault := by
  have hread := @stumblesOn_textOf_bind _ platform memory value next (fun _ => after)
    fun text _ => hnext text
  refine ⟨fun fault h => (hread.fault fault h).imp_right ?_, fun fault h => ?_, fun h => ?_⟩
  · rintro ⟨text, -, hafter⟩
    exact hafter
  · obtain hstops | hafter := h
    · exact hread.stops fault (.inl hstops)
    · obtain ⟨text, hplain, -⟩ | ⟨other, hstops, -⟩ := textOf_eq platform memory value
      · exact hread.stops fault (.inr ⟨text, hplain, hafter⟩)
      · exact hread.stops other (.inl hstops)
  · refine hread.told fun fault hfault => h fault (hfault.imp_right ?_)
    rintro ⟨text, -, hafter⟩
    exact hafter

-- A name is needed, whatever the case of its letters.
theorem stumblesOn_choice_bind {all : List α} {name : α → String} {key text : String}
    {next : α → Except SettingsFault β} {after : Data.Fault → Prop}
    (hnext : ∀ a, StumblesOn (next a) after) :
    StumblesOn (choice all name key text >>= next) fun fault =>
      (∃ a ∈ all, name a = lowered text) ∧ after fault := by
  unfold choice
  cases hfind : all.find? fun a => name a == lowered text with
  | none =>
      have hnone : ¬ ∃ a ∈ all, name a = lowered text := by
        rintro ⟨a, ha, hname⟩
        simpa [hname] using List.find?_eq_none.mp hfind a ha
      refine ⟨fun fault h => ?_, fun fault h => absurd h.1 hnone, fun _ => .inr ⟨_, _, _, rfl⟩⟩
      cases fault <;> cases h
  | some a =>
      have hbeq := List.find?_some hfind
      have hname : ∃ a ∈ all, name a = lowered text :=
        ⟨a, List.mem_of_find?_eq_some hfind, eq_of_beq hbeq⟩
      have hread := hnext a
      exact ⟨fun fault h => ⟨hname, hread.fault fault h⟩, fun fault h => hread.stops fault h.2,
        fun h => hread.told fun fault hafter => h fault ⟨hname, hafter⟩⟩

theorem stumblesOn_choice_map {all : List α} {name : α → String} {key text : String}
    (f : α → β) : StumblesOn (choice all name key text >>= fun a => pure (f a)) fun _ => False :=
  (stumblesOn_choice_bind fun a => stumblesOn_ok (f a)).congr fun _ => iff_of_eq (and_false _)

end Steps

section Reading

variable (platform : Platform) (memory : Memory) (fields : Fields)

-- A setting that is given and cannot be written.
def IsUnwritable (key : String) (fault : Data.Fault) : Prop :=
  ∃ value, fields.get? (.text key) = some value ∧
    memory.StopsAlone platform.writingDepth value fault

-- The kind is one of those that there are.
def NamesKind : Prop :=
  ∃ text, memory.plain platform.writingDepth ((fields.get? (.text "kind")).getD (.text "retry")) =
    .ok text ∧ ∃ kind ∈ Kind.all, kind.name = lowered text

-- The settings are read one after the other. A wrong kind is told before what comes after it
-- counts.
def Stumbles (fault : Data.Fault) : Prop :=
  IsUnwritable platform memory fields "kind" fault ∨
    NamesKind platform memory fields ∧
      ∃ key ∈ ["unit_test_provider", "default_namespace", "runtime_namespace", "target_language"],
        IsUnwritable platform memory fields key fault

variable {platform memory fields}

theorem isUnwritable_iff {key fallback : String} {fault : Data.Fault} :
    memory.StopsAlone platform.writingDepth ((fields.get? (.text key)).getD (.text fallback)) fault ↔
      IsUnwritable platform memory fields key fault := by
  unfold IsUnwritable
  cases fields.get? (.text key) with
  | none => exact iff_of_false Memory.not_stopsAlone_text (by simp)
  | some value => simp

theorem stumblesOn_ofConfig {config : Config} (h : generatorSection config = .ok fields) :
    StumblesOn (ofConfig platform config) (Stumbles platform config.memory fields) := by
  unfold ofConfig
  rw [h]
  refine StumblesOn.congr (stumblesOn_textOf_bind fun text _ => stumblesOn_choice_bind fun kind =>
    stumblesOn_textOf_then fun framework => stumblesOn_textOf_then fun defaultNamespace =>
    stumblesOn_textOf_then fun runtimeNamespace => stumblesOn_textOf_then fun language =>
    stumblesOn_choice_map _) fun fault => ?_
  simp only [isUnwritable_iff, or_false]
  unfold Stumbles NamesKind
  refine or_congr_right ?_
  simp only [List.mem_cons, List.not_mem_nil, or_false, exists_eq_or_imp, exists_eq_left]
  constructor
  · rintro ⟨text, hplain, hkind, hafter⟩
    exact ⟨⟨text, hplain, hkind⟩, hafter⟩
  · rintro ⟨⟨text, hplain, hkind⟩, hafter⟩
    exact ⟨text, hplain, hkind, hafter⟩

end Reading

section Section

variable {platform : Platform} {config : Config}

-- The fields of the generator's section. What is no map has none.
def sectionOf (config : Config) : Fields :=
  ((config.fields.get? (.text "generator")).bind config.memory.fields?).getD []

-- Something stands in the place of the section that is no map and counts as something.
def IsSectionless (config : Config) : Prop :=
  ∃ value, config.fields.get? (.text "generator") = some value ∧
    config.memory.fields? value = none ∧ config.memory.isTruthy value

theorem at?_singleton (config : Config) (key : String) :
    config.at? [key] = config.fields.get? (.text key) := by
  simp [Config.at?, Memory.at?]

theorem generatorSection_of_isSectionless (h : IsSectionless config) :
    generatorSection config = .error .notSection := by
  obtain ⟨value, hvalue, hfields, htruthy⟩ := h
  simp only [generatorSection, at?_singleton, hvalue, hfields, if_pos htruthy]

theorem generatorSection_of_not_isSectionless (h : ¬ IsSectionless config) :
    generatorSection config = .ok (sectionOf config) := by
  unfold generatorSection sectionOf
  rw [at?_singleton]
  cases hvalue : config.fields.get? (.text "generator") with
  | none => rfl
  | some value =>
      rw [Option.bind_some]
      cases hfields : config.memory.fields? value with
      | some fields => simp [hfields]
      | none =>
          have hfalsy : ¬ config.memory.isTruthy value := fun htruthy =>
            h ⟨value, hvalue, hfields, htruthy⟩
          simp [hfields, hfalsy]

theorem ofConfig_eq_notSection_iff :
    ofConfig platform config = .error .notSection ↔ IsSectionless config := by
  by_cases h : IsSectionless config
  · refine iff_of_true ?_ h
    rw [ofConfig, generatorSection_of_isSectionless h]
    rfl
  · have hreads := @stumblesOn_ofConfig platform _ config (generatorSection_of_not_isSectionless h)
    exact iff_of_false hreads.ne_notSection h

end Section

end Settings

namespace Memory

variable {memory other : Memory} {newest found : Option Data}

-- Of several values for a label the newest counts. A map is merged into what is there, and anything
-- else takes its place.
inductive Settles (memory : Memory) : Option Data → Option Data → Prop where
  | absent : Settles memory none none
  | map {given known : Data} (isGiven : (memory.fields? given).isSome)
      (isKnown : (memory.fields? known).isSome) : Settles memory (some given) (some known)
  | other {value : Data} (plain : memory.fields? value = none) :
      Settles memory (some value) (some value)

theorem settles_self (memory : Memory) (value : Option Data) : memory.Settles value value := by
  cases value with
  | none => exact .absent
  | some value =>
      cases hfields : memory.fields? value with
      | none => exact .other hfields
      | some fields => exact .map (by rw [hfields]; rfl) (by rw [hfields]; rfl)

theorem Settles.congr (h : memory.Settles newest found)
    (hnewest : ∀ value, newest = some value →
      (other.fields? value).isSome = (memory.fields? value).isSome)
    (hfound : ∀ value, found = some value →
      (other.fields? value).isSome = (memory.fields? value).isSome) :
    other.Settles newest found := by
  cases h with
  | absent => exact .absent
  | map isGiven isKnown =>
      exact .map ((hnewest _ rfl).trans isGiven) ((hfound _ rfl).trans isKnown)
  | other plain =>
      refine .other ?_
      rw [← Option.not_isSome_iff_eq_none, hnewest _ rfl, plain]
      simp

theorem Settles.merge {merge : Fields → Fields → Option Fields} {newer result : Option Data}
    (h : memory.Settles newest found) (hmerged : Merged memory merge found newer result) :
    memory.Settles (newer.or newest) result := by
  cases hmerged with
  | absent => exact h
  | kept plain => exact h
  | copied isMap copied =>
      cases h with
      | map isGiven _ => exact .map isGiven rfl
      | other plain => cases plain.symm.trans isMap
  | replaced _ => exact memory.settles_self _
  | both _ _ newMap _ => exact .map (by rw [newMap]; rfl) rfl

end Memory

namespace Config

variable {config : Config} {newest : Option Data} {label : Label}

theorem settles_overrideOne (field : Scalar × Data)
    (h : config.memory.Settles newest (config.fields.get? label)) :
    (config.overrideOne field).memory.Settles
      (if label = field.1.label then some field.2 else newest)
      ((config.overrideOne field).fields.get? label) := by
  by_cases hlabel : label = field.1.label
  · rw [if_pos hlabel, hlabel]
    by_cases hboth : (config.fields.get? field.1.label).bind config.memory.fields? = none ∨
        config.memory.fields? field.2 = none
    · rw [overrideOne_of_not_section hboth, Fields.get?_put, if_pos rfl]
      exact Memory.settles_self _ _
    · rw [not_or, ← Ne, ← Ne, Option.ne_none_iff_exists', Option.ne_none_iff_exists'] at hboth
      obtain ⟨⟨known, hknown⟩, newer, hnewer⟩ := hboth
      obtain ⟨old, hold, hknown⟩ := Option.bind_eq_some_iff.mp hknown
      have hbind := fields?_overrideOne hold hknown hnewer field.1.label
      rw [if_pos (shares_iff.mpr (.inl rfl))] at hbind
      obtain ⟨value, hvalue, hfields⟩ := Option.bind_eq_some_iff.mp hbind
      rw [hvalue]
      refine .map ?_ (by rw [hfields]; rfl)
      rw [isSome_fields?_overrideOne, hnewer]
      rfl
  · rw [if_neg hlabel, get?_overrideOne hlabel]
    exact h.congr (fun value _ => isSome_fields?_overrideOne value)
      fun value _ => isSome_fields?_overrideOne value

theorem settles_override {overrides : Fields} (hlabels : overrides.labels.Nodup)
    (h : config.memory.Settles newest (config.fields.get? label)) :
    (config.override overrides).memory.Settles ((overrides.get? label).or newest)
      ((config.override overrides).fields.get? label) := by
  induction overrides generalizing config newest with
  | nil => exact h
  | cons field rest ih =>
      obtain ⟨habsent, hlabels⟩ := Fields.nodup_labels_cons.mp hlabels
      have hrest := ih hlabels (settles_overrideOne field h)
      by_cases hlabel : label = field.1.label
      · subst hlabel
        rw [habsent, if_pos rfl, Option.none_or] at hrest
        rw [Fields.get?_cons_self, Option.some_or]
        exact hrest
      · rw [if_neg hlabel] at hrest
        rw [Fields.get?_cons_of_ne hlabel]
        exact hrest

end Config

namespace Memory

-- A value that counts as something once its variables are in place.
def countsIn (memory : Memory) (environ : Environment) (value : Data) : Bool :=
  match memory.look value with
  | .scalar (.text text) => !(environ.expandText text).isEmpty
  | _ => memory.isTruthy value

theorem isTruthy_of_expand? {memory : Memory} {environ : Environment} {depth : Nat}
    {value read : Data} (hplain : memory.fields? value = none)
    (h : memory.expand? environ depth value = some read) :
    memory.isTruthy read = memory.countsIn environ value := by
  cases depth with
  | zero => cases h
  | succ depth =>
      rw [expand?_succ] at h
      unfold countsIn
      split at h
      · next text htext =>
        cases h
        rw [htext]
        rfl
      · next items hitems =>
        obtain ⟨others, hothers, rfl⟩ := Option.map_eq_some_iff.mp h
        have hempty : others.isEmpty = items.isEmpty := by
          cases Result.mapM_eq_some.mp hothers <;> rfl
        rw [hitems]
        change (!others.isEmpty) = memory.isTruthy value
        rw [isTruthy, hitems, hempty]
      · next fields hfields => cases hplain.symm.trans (fields?_eq_some.mpr hfields)
      · next htext _ _ =>
        cases h
        split
        · next text hlook => exact absurd hlook (htext text)
        · rfl

theorem countsIn_congr {memory other : Memory} {value : Data}
    (h : other.look value = memory.look value) (environ : Environment) :
    other.countsIn environ value = memory.countsIn environ value := by
  unfold countsIn isTruthy
  rw [h]

end Memory

namespace Sources

variable {sources : Sources}

-- What the newest source that has something under a label has there.
def newestAt? (sources : Sources) (label : Label) : Option Data :=
  [sources.others, sources.overrides, sources.file, defaultFields].findSome? (·.get? label)

-- Something else stands where the generator's section should, in the newest source that has
-- anything there. It has to count as something once its variables are in place.
def HasStraySection (sources : Sources) (environ : Environment) : Prop :=
  ∃ value, sources.newestAt? (.text "generator") = some value ∧
    sources.memory.fields? value = none ∧ sources.memory.countsIn environ value

theorem newestAt?_eq (sources : Sources) (label : Label) : sources.newestAt? label =
    (sources.others.get? label).or ((sources.overrides.get? label).or
      ((sources.file.get? label).or (defaultFields.get? label))) := by
  simp only [newestAt?, List.findSome?_cons, List.findSome?_nil]
  cases sources.others.get? label <;> cases sources.overrides.get? label <;>
    cases sources.file.get? label <;> cases defaultFields.get? label <;> rfl

theorem settles_merged {depth : Nat} {config : Config} (h : sources.IsSound)
    (hconfig : sources.merged? (depth + 1) = some config) (label : Label) :
    sources.memory.Settles ((sources.file.get? label).or (defaultFields.get? label))
      (config.fields.get? label) := by
  obtain ⟨fields, hfields, rfl⟩ := Option.map_eq_some_iff.mp hconfig
  have hmerged := Memory.merged_merge? (Data.isSound_map.mp h.file).1 hfields label
  have hsettles := (sources.known.settles_self (defaultFields.get? label)).merge hmerged
  refine hsettles.congr (fun value hvalue => ?_) fun value hvalue => ?_
  · rw [Option.or_eq_some_iff] at hvalue
    obtain hfile | ⟨-, hdefault⟩ := hvalue
    · rw [h.fields?_file (h.of_get?_file hfile)]
    · obtain ⟨field, hfield, -, rfl⟩ := Fields.mem_of_get? hdefault
      obtain ⟨inner, hinner, -⟩ := section_of_mem_defaultFields hfield
      rw [hinner]
      rfl
  · rw [fields?_merged h hconfig hvalue]

-- What stands under a label in the end.
theorem settles_filled {depth : Nat} {environ : Environment} {config : Config} (h : sources.IsSound)
    (hfilled : sources.filled? (depth + 2) environ = some config) (label : Label) : ∃ found,
      config.memory.Settles (sources.newestAt? label) found ∧
        Option.Rel (fun value read => config.memory.expand? environ (depth + 1) value = some read)
          found (config.fields.get? label) := by
  obtain ⟨merged, assembled, hmerged, hassembled, hexpanded⟩ := filled?_eq_some.mp hfilled
  obtain ⟨combined, hcombined, rfl⟩ := Option.map_eq_some_iff.mp hassembled
  rw [Config.expand?_eq] at hexpanded
  obtain ⟨expanded, hexpand, rfl⟩ := Option.map_eq_some_iff.mp hexpanded
  have hsettles := settles_merged h hmerged label
  rw [← memory_merged hmerged] at hsettles
  have hoverridden := Config.settles_override (Data.isSound_map.mp h.overrides).1 hsettles
  have hothers := Memory.merged_merge? (Data.isSound_map.mp h.others).1 hcombined label
  rw [newestAt?_eq]
  exact ⟨combined.get? label, hoverridden.merge hothers,
    Memory.rel_get?_expandFields? hexpand label⟩

-- What stands in the place of the section is decided by the newest source that has something there.
theorem isSectionless_filled {depth : Nat} {environ : Environment} {config : Config}
    (h : sources.IsSound) (hfilled : sources.filled? (depth + 2) environ = some config) :
    Settings.IsSectionless config ↔ sources.HasStraySection environ := by
  obtain ⟨found, hsettles, hrel⟩ := settles_filled h hfilled (.text "generator")
  unfold Settings.IsSectionless HasStraySection
  generalize sources.newestAt? (.text "generator") = newest at hsettles
  generalize config.fields.get? (.text "generator") = result at hrel
  cases hsettles with
  | absent =>
      cases hrel
      simp
  | map isGiven isKnown =>
      cases hrel with
      | @some _ read hread =>
          rw [← Memory.isSome_fields?_of_expand? hread, Option.isSome_iff_ne_none] at isKnown
          rw [isSome_fields?_filled hfilled, Option.isSome_iff_ne_none] at isGiven
          simp [isKnown, isGiven]
  | @other value plain =>
      cases hrel with
      | @some _ read hread =>
          have hsource : sources.memory.fields? value = none := by
            rw [← Option.not_isSome_iff_eq_none, ← isSome_fields?_filled hfilled, plain]
            simp
          have hread' : config.memory.fields? read = none := by
            rw [← Option.not_isSome_iff_eq_none, Memory.isSome_fields?_of_expand? hread, plain]
            simp
          -- What is no map is not changed by overrides.
          have hlook : config.memory.look value = sources.memory.look value := by
            cases value with
            | shared place => exact look_filled h hfilled fun _ => hsource
            | _ => rfl
          simp [hsource, hread', Memory.isTruthy_of_expand? plain hread,
            Memory.countsIn_congr hlook]

end Sources

end Rehearsal
