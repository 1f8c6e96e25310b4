import Rehearsal.Proofs.Settings.Fields

namespace Rehearsal

namespace Memory

theorem look_set_of_ne {memory : Memory} {place other : Nat} (h : other ≠ place) (value : Data) :
    look (memory.set place value) (.shared other) = memory.look (.shared other) := by
  simp only [look, List.getD_eq_getElem?_getD, List.getElem?_set_ne h.symm]

theorem fields?_set_of_ne {memory : Memory} {place : Nat} {value : Data} (h : value ≠ .shared place)
    (content : Data) : fields? (memory.set place content) value = memory.fields? value := by
  cases value with
  | shared other =>
      have hne : other ≠ place := fun heq => h (congrArg _ heq)
      rw [fields?, fields?, look_set_of_ne hne]
  | _ => rfl

-- Only a place that is there holds a map.
theorem fields?_set_self {memory : Memory} {place : Nat} {known : Fields}
    (h : memory.fields? (.shared place) = some known) (fields : Fields) :
    fields? (memory.set place (.map fields)) (.shared place) = some fields := by
  have hplace : place < memory.length := by
    by_contra hbeyond
    have hlook : memory.look (.shared place) = .shared place := by
      simp [look, List.getElem?_eq_none (Nat.le_of_not_lt hbeyond)]
    rw [fields?, hlook] at h
    cases h
  simp [fields?, look, hplace]

-- Of several sections that are meant, the last one that has the key counts.
def lastGiven? (memory : Memory) (isMeant : Label → Bool) (key : Label) : Fields → Option Data
  | [] => none
  | field :: rest =>
      (lastGiven? memory isMeant key rest).or
        (if isMeant field.1.label then (memory.fieldsOf field.2).get? key else none)

theorem lastGiven?_self {memory : Memory} {overrides : Fields} (h : overrides.labels.Nodup)
    (name key : Label) :
    memory.lastGiven? (name == ·) key overrides = memory.setting? overrides name key := by
  induction overrides with
  | nil => rfl
  | cons field rest ih =>
      obtain ⟨habsent, hrest⟩ := Fields.nodup_labels_cons.mp h
      rw [lastGiven?, ih hrest, setting?, setting?]
      by_cases hname : name = field.1.label
      · subst hname
        rw [habsent, Fields.get?_cons_self, beq_self_eq_true, if_pos rfl, fieldsOf,
          Option.bind_some]
        cases memory.fields? field.2 <;> rfl
      · rw [Fields.get?_cons_of_ne hname, beq_eq_false_iff_ne.mpr hname]
        exact Option.or_none ..

theorem isSome_lastGiven? {memory : Memory} {isMeant other : Label → Bool} {overrides : Fields}
    {key : Label} (h : ∀ label, isMeant label → other label)
    (hsome : (memory.lastGiven? isMeant key overrides).isSome) :
    (memory.lastGiven? other key overrides).isSome := by
  induction overrides with
  | nil => exact hsome
  | cons field rest ih =>
      rw [lastGiven?, Option.isSome_or, Bool.or_eq_true] at hsome ⊢
      refine hsome.imp ih fun hfield => ?_
      by_cases hmeant : isMeant field.1.label
      · rw [if_pos (h _ hmeant)]
        rwa [if_pos hmeant] at hfield
      · rw [if_neg hmeant] at hfield
        cases hfield

theorem lastGiven?_congr {memory : Memory} {isMeant other : Label → Bool} {overrides : Fields}
    (h : ∀ field ∈ overrides, isMeant field.1.label = other field.1.label) (key : Label) :
    memory.lastGiven? isMeant key overrides = memory.lastGiven? other key overrides := by
  induction overrides with
  | nil => rfl
  | cons field rest ih =>
      rw [List.forall_mem_cons] at h
      rw [lastGiven?, lastGiven?, ih h.2, h.1]

end Memory

namespace Config

def setting? (config : Config) (name key : Label) : Option Data :=
  config.memory.setting? config.fields name key

-- Labels under which one and the same map stands.
def shares (config : Config) (name other : Label) : Bool :=
  name == other ||
    match config.fields.get? name, config.fields.get? other with
    | some (.shared place), some (.shared otherPlace) => place == otherPlace
    | _, _ => false

theorem shares_iff {config : Config} {name other : Label} : config.shares name other ↔
    name = other ∨ ∃ place, config.fields.get? name = some (.shared place) ∧
      config.fields.get? other = some (.shared place) := by
  rw [shares, Bool.or_eq_true, beq_iff_eq]
  refine or_congr_right ?_
  split
  · next place otherPlace hname hother =>
    rw [beq_iff_eq, hname, hother]
    constructor
    · rintro rfl
      exact ⟨place, rfl, rfl⟩
    · rintro ⟨_, hplace, hother⟩
      cases hplace
      cases hother
      rfl
  · next hnot =>
    refine iff_of_false (by simp) ?_
    rintro ⟨place, hname, hother⟩
    exact hnot place place hname hother

theorem section?_eq_some {config : Config} {label : Label} {value : Data} {fields : Fields} :
    config.section? label = some (value, fields) ↔
      config.fields.get? label = some value ∧ config.memory.fields? value = some fields := by
  simp only [section?, Option.bind_eq_some_iff, Option.map_eq_some_iff, Prod.mk.injEq]
  constructor
  · rintro ⟨_, hvalue, _, hfields, rfl, rfl⟩
    exact ⟨hvalue, hfields⟩
  · rintro ⟨hvalue, hfields⟩
    exact ⟨value, hvalue, fields, hfields, rfl, rfl⟩

section One

variable {config : Config} {field : Scalar × Data}

theorem get?_overrideOne {label : Label} (h : label ≠ field.1.label) :
    (config.overrideOne field).fields.get? label = config.fields.get? label := by
  unfold overrideOne
  split <;> exact (Fields.get?_put ..).trans (if_neg h)

-- Only a place with a map is changed, and only one that stands under the label.
theorem look_overrideOne {place : Nat}
    (h : config.fields.get? field.1.label = some (.shared place) →
      config.memory.fields? (.shared place) = none) :
    (config.overrideOne field).memory.look (.shared place) =
      config.memory.look (.shared place) := by
  unfold overrideOne
  split
  · next old known newer hsection hnewer =>
    obtain ⟨hold, hknown⟩ := section?_eq_some.mp hsection
    cases old with
    | shared other =>
        have hne : place ≠ other := by
          rintro rfl
          cases (h hold).symm.trans hknown
        exact Memory.look_set_of_ne hne _
    | _ => rfl
  · rfl

-- A section that is there is changed under all labels that share it.
theorem fields?_overrideOne {old : Data} {known newer : Fields}
    (hold : config.fields.get? field.1.label = some old)
    (hknown : config.memory.fields? old = some known)
    (hnewer : config.memory.fields? field.2 = some newer) (name : Label) :
    ((config.overrideOne field).fields.get? name).bind (config.overrideOne field).memory.fields? =
      if config.shares name field.1.label then some (known.putAll newer)
      else (config.fields.get? name).bind config.memory.fields? := by
  have hone : config.overrideOne field =
      { memory := (config.memory.assign old (known.putAll newer)).1
        fields := config.fields.put field.1
          (config.memory.assign old (known.putAll newer)).2 } := by
    unfold overrideOne
    rw [section?_eq_some.mpr ⟨hold, hknown⟩, hnewer]
  rw [hone]
  by_cases hname : name = field.1.label
  · have hshares : config.shares name field.1.label := shares_iff.mpr (.inl hname)
    rw [if_pos hshares, Fields.get?_put, if_pos hname, Option.bind_some]
    cases old with
    | shared place => exact Memory.fields?_set_self hknown _
    | _ => rfl
  · rw [Fields.get?_put, if_neg hname]
    cases old with
    | shared place =>
        by_cases hshares : config.fields.get? name = some (.shared place)
        · rw [if_pos (shares_iff.mpr (.inr ⟨place, hshares, hold⟩)), hshares]
          exact Memory.fields?_set_self hknown _
        · rw [if_neg]
          · cases hvalue : config.fields.get? name with
            | none => rfl
            | some value =>
                have hne : value ≠ .shared place := fun heq => hshares (heq ▸ hvalue)
                exact Memory.fields?_set_of_ne hne _
          · rw [shares_iff]
            rintro (heq | ⟨other, hother, hplace⟩)
            · exact hname heq
            · cases hold.symm.trans hplace
              exact hshares hother
    | _ =>
        rw [if_neg]
        · rfl
        · rw [shares_iff]
          rintro (heq | ⟨other, -, hplace⟩)
          · exact hname heq
          · cases hold.symm.trans hplace

-- A map stays a map, and nothing else becomes one.
theorem isSome_fields?_overrideOne (value : Data) :
    ((config.overrideOne field).memory.fields? value).isSome =
      (config.memory.fields? value).isSome := by
  unfold overrideOne
  split
  · next old known newer hsection hnewer =>
    obtain ⟨-, hknown⟩ := section?_eq_some.mp hsection
    cases old with
    | shared place =>
        change (Memory.fields? (config.memory.set place _) value).isSome = _
        by_cases hvalue : value = .shared place
        · rw [hvalue, Memory.fields?_set_self hknown, hknown]
          rfl
        · rw [Memory.fields?_set_of_ne hvalue]
    | _ => rfl
  · rfl

theorem overrideOne_of_not_section
    (h : (config.fields.get? field.1.label).bind config.memory.fields? = none ∨
      config.memory.fields? field.2 = none) :
    config.overrideOne field = { config with fields := config.fields.put field.1 field.2 } := by
  unfold overrideOne
  split
  · next old known newer hsection hnewer =>
    rw [section?_eq_some] at hsection
    rw [hsection.1, Option.bind_some, hsection.2, hnewer] at h
    simp at h
  · rfl

end One

section All

variable {config : Config} {overrides : Fields}

theorem look_override (hlabels : overrides.labels.Nodup) {place : Nat}
    (h : ∀ field ∈ overrides, config.fields.get? field.1.label = some (.shared place) →
      config.memory.fields? (.shared place) = none) :
    (config.override overrides).memory.look (.shared place) =
      config.memory.look (.shared place) := by
  induction overrides generalizing config with
  | nil => rfl
  | cons field rest ih =>
      obtain ⟨habsent, hlabels⟩ := Fields.nodup_labels_cons.mp hlabels
      rw [List.forall_mem_cons] at h
      have hone := look_overrideOne h.1
      refine Eq.trans (ih hlabels fun other hother => ?_) hone
      rw [get?_overrideOne (Fields.label_ne_of_mem habsent hother), Memory.fields?, hone]
      exact h.2 other hother

theorem isSome_get?_override (config : Config) (overrides : Fields) (label : Label) :
    ((config.override overrides).fields.get? label).isSome =
      ((config.fields.get? label).isSome || (overrides.get? label).isSome) := by
  induction overrides generalizing config with
  | nil => exact (Bool.or_false _).symm
  | cons field rest ih =>
      refine (ih _).trans ?_
      by_cases hlabel : label = field.1.label
      · have hone : ((config.overrideOne field).fields.get? label).isSome := by
          unfold overrideOne
          split <;> simp [Fields.get?_put, hlabel]
        rw [hone, hlabel, Fields.get?_cons_self, Option.isSome_some, Bool.true_or, Bool.or_true]
      · rw [get?_overrideOne hlabel, Fields.get?_cons_of_ne hlabel]

theorem isSome_fields?_override (config : Config) (overrides : Fields) (value : Data) :
    ((config.override overrides).memory.fields? value).isSome =
      (config.memory.fields? value).isSome := by
  induction overrides generalizing config with
  | nil => rfl
  | cons field rest ih => exact (ih _).trans (isSome_fields?_overrideOne value)

variable {memory : Memory} {next last : Nat}

-- What the run keeps: the overrides have places of their own, which are not changed.
structure IsReady (memory : Memory) (next : Nat) (config : Config) (overrides : Fields) : Prop where
  agree : memory.AgreeFrom next config.memory
  below : ∀ field ∈ overrides, ∀ place,
    config.fields.get? field.1.label = some (.shared place) → place < next

theorem IsReady.step {field : Scalar × Data} {rest : Fields}
    (h : IsReady memory next config (field :: rest))
    (habsent : Fields.get? rest field.1.label = none) :
    IsReady memory next (config.overrideOne field) rest where
  agree place hplace := by
    rw [look_overrideOne, h.agree place hplace]
    intro hfield
    exact absurd (h.below field List.mem_cons_self place hfield) (Nat.not_lt.mpr hplace)
  below other hother place := by
    rw [get?_overrideOne (Fields.label_ne_of_mem habsent hother)]
    exact h.below other (List.mem_cons_of_mem _ hother) place

theorem IsReady.agreeFrom_override (h : IsReady memory next config overrides)
    (hlabels : overrides.labels.Nodup) :
    memory.AgreeFrom next (config.override overrides).memory := by
  intro place hplace
  rw [look_override hlabels, h.agree place hplace]
  intro field hfield hshared
  exact absurd (h.below field hfield place hshared) (Nat.not_lt.mpr hplace)

end All

section Section

variable {config : Config} {field : Scalar × Data} {name : Label}

theorem bind_fields?_of_shares {other : Label} (h : config.shares name other) :
    (config.fields.get? name).bind config.memory.fields? =
      (config.fields.get? other).bind config.memory.fields? := by
  obtain rfl | ⟨place, hname, hother⟩ := shares_iff.mp h
  · rfl
  · rw [hname, hother]

theorem setting?_eq (config : Config) (name key : Label) : config.setting? name key =
    ((config.fields.get? name).bind config.memory.fields?).bind (·.get? key) := rfl

-- One override changes the sections that share its label, and no other.
theorem setting?_overrideOne (hsection : config.memory.IsSectioned config.fields name)
    (hmap : name = field.1.label → (config.memory.fields? field.2).isSome)
    (hlabels : (config.memory.fieldsOf field.2).labels.Nodup) (key : Label) :
    (config.overrideOne field).setting? name key =
      (if config.shares name field.1.label then (config.memory.fieldsOf field.2).get? key
        else none).or (config.setting? name key) := by
  cases hnewer : config.memory.fields? field.2 with
  | none =>
      have hname : name ≠ field.1.label := fun heq => by simpa [hnewer] using hmap heq
      have hnone : config.memory.fieldsOf field.2 = [] := by rw [Memory.fieldsOf, hnewer]; rfl
      rw [hnone, Fields.get?_nil, ite_self, Option.none_or,
        overrideOne_of_not_section (.inr hnewer), setting?_eq, Fields.get?_put, if_neg hname]
      rfl
  | some newer =>
      have hfields : config.memory.fieldsOf field.2 = newer := by rw [Memory.fieldsOf, hnewer]; rfl
      rw [hfields] at hlabels ⊢
      cases hknown : (config.fields.get? field.1.label).bind config.memory.fields? with
      | some known =>
          obtain ⟨old, hold, hknown⟩ := Option.bind_eq_some_iff.mp hknown
          rw [setting?_eq, fields?_overrideOne hold hknown hnewer]
          by_cases hshares : config.shares name field.1.label
          · rw [if_pos hshares, if_pos hshares, setting?_eq, bind_fields?_of_shares hshares, hold,
              Option.bind_some, Option.bind_some, hknown, Option.bind_some,
              Fields.get?_putAll hlabels]
          · rw [if_neg hshares, if_neg hshares, Option.none_or, setting?_eq]
      | none =>
          rw [overrideOne_of_not_section (.inl hknown), setting?_eq, Fields.get?_put]
          by_cases hname : name = field.1.label
          · -- The section was left out before, since what stands there would be a map.
            subst hname
            rw [if_pos rfl, if_pos (shares_iff.mpr (.inl rfl)), setting?_eq, hknown]
            simp [hnewer]
          · rw [if_neg hname, if_neg, Option.none_or, setting?_eq]
            intro hshares
            rw [← bind_fields?_of_shares hshares] at hknown
            obtain heq | ⟨place, hplace, -⟩ := shares_iff.mp hshares
            · exact hname heq
            · have hsome := hsection _ hplace
              rw [hplace, Option.bind_some] at hknown
              rw [hknown] at hsome
              cases hsome

theorem isSectioned_overrideOne (hsection : config.memory.IsSectioned config.fields name)
    (hmap : name = field.1.label → (config.memory.fields? field.2).isSome) :
    (config.overrideOne field).memory.IsSectioned (config.overrideOne field).fields name := by
  intro value hvalue
  by_cases hboth : (config.fields.get? field.1.label).bind config.memory.fields? = none ∨
      config.memory.fields? field.2 = none
  · rw [overrideOne_of_not_section hboth] at hvalue ⊢
    rw [Fields.get?_put] at hvalue
    split_ifs at hvalue with hname
    · cases hvalue
      exact hmap hname
    · exact hsection value hvalue
  · rw [not_or, ← Ne, ← Ne, Option.ne_none_iff_exists', Option.ne_none_iff_exists'] at hboth
    obtain ⟨⟨known, hknown⟩, newer, hnewer⟩ := hboth
    obtain ⟨old, hold, hknown⟩ := Option.bind_eq_some_iff.mp hknown
    have hbind := fields?_overrideOne hold hknown hnewer name
    rw [hvalue, Option.bind_some] at hbind
    rw [hbind]
    split_ifs with hshares
    · rfl
    · have hname : name ≠ field.1.label := fun heq => hshares (shares_iff.mpr (.inl heq))
      rw [get?_overrideOne hname] at hvalue
      rw [hvalue, Option.bind_some]
      exact hsection value hvalue

-- A map that stands at a place stays there.
theorem get?_overrideOne_of_shared {place : Nat} (h : config.fields.get? name = some (.shared place))
    (hsection : config.memory.IsSectioned config.fields name)
    (hmap : name = field.1.label → (config.memory.fields? field.2).isSome) :
    (config.overrideOne field).fields.get? name = some (.shared place) := by
  by_cases hname : name = field.1.label
  · obtain ⟨known, hknown⟩ := Option.isSome_iff_exists.mp (hsection _ h)
    obtain ⟨newer, hnewer⟩ := Option.isSome_iff_exists.mp (hmap hname)
    rw [hname] at h ⊢
    unfold overrideOne
    rw [section?_eq_some.mpr ⟨h, hknown⟩, hnewer]
    exact (Fields.get?_put ..).trans (if_pos rfl)
  · rw [get?_overrideOne hname, h]

-- Who shares a section with a label that comes later does not change.
theorem shares_overrideOne {next : Nat} {other : Label} (hother : other ≠ field.1.label)
    (hsection : config.memory.IsSectioned config.fields name)
    (hmap : name = field.1.label → (config.memory.fields? field.2).isSome)
    (hbelow : ∀ place, config.fields.get? other = some (.shared place) → place < next)
    (habove : ∀ place, field.2 = .shared place → next ≤ place) :
    (config.overrideOne field).shares name other = config.shares name other := by
  rw [Bool.eq_iff_iff, shares_iff, shares_iff, get?_overrideOne hother]
  by_cases hname : name = field.1.label
  · have hne : name ≠ other := fun heq => hother (heq.symm.trans hname)
    subst hname
    rw [or_iff_right hne, or_iff_right hne]
    obtain ⟨newer, hnewer⟩ := Option.isSome_iff_exists.mp (hmap rfl)
    cases hold : config.fields.get? field.1.label with
    | none =>
        -- The section is new, and what it may refer to is no place of the older ones.
        rw [overrideOne_of_not_section (.inl (by rw [hold]; rfl)), Fields.get?_put, if_pos rfl]
        refine iff_of_false ?_ (by simp)
        rintro ⟨place, hplace, hshared⟩
        exact Nat.not_lt.mpr (habove place (Option.some.inj hplace)) (hbelow place hshared)
    | some old =>
        obtain ⟨known, hknown⟩ := Option.isSome_iff_exists.mp (hsection old hold)
        have hself : (config.overrideOne field).fields.get? field.1.label =
            some (config.memory.assign old (known.putAll newer)).2 := by
          unfold overrideOne
          rw [section?_eq_some.mpr ⟨hold, hknown⟩, hnewer]
          exact (Fields.get?_put ..).trans (if_pos rfl)
        rw [hself]
        cases old <;> simp [Memory.assign]
  · rw [get?_overrideOne hname]

end Section

section Run

variable {config : Config} {memory : Memory} {overrides : Fields} {next last : Nat} {name : Label}

-- What the run keeps for a section: it is left out or a map, in the settings and in the overrides.
structure Fits (memory : Memory) (next last : Nat) (config : Config) (overrides : Fields)
    (name : Label) : Prop extends IsReady memory next config overrides where
  sound : (Data.map overrides).isSound next last
  known : config.memory.IsSectioned config.fields name
  given : memory.IsSectioned overrides name

section Step

variable {field : Scalar × Data} {rest : Fields}
  (h : Fits memory next last config (field :: rest) name)
include h

theorem Fits.absent_sound : Fields.get? rest field.1.label = none ∧ field.2.isSound next last ∧
    (Data.map rest).isSound next last := by
  obtain ⟨hlabels, heach⟩ := Data.isSound_map.mp h.sound
  obtain ⟨habsent, hlabels⟩ := Fields.nodup_labels_cons.mp hlabels
  rw [List.forall_mem_cons] at heach
  exact ⟨habsent, heach.1, Data.isSound_map.mpr ⟨hlabels, heach.2⟩⟩

theorem Fits.fields? : config.memory.fields? field.2 = memory.fields? field.2 :=
  h.agree.fields? h.absent_sound.2.1

theorem Fits.isMap (hname : name = field.1.label) : (config.memory.fields? field.2).isSome := by
  rw [h.fields?]
  apply h.given
  rw [hname, Fields.get?_cons_self]

theorem Fits.step : Fits memory next last (config.overrideOne field) rest name where
  toIsReady := h.toIsReady.step h.absent_sound.1
  sound := h.absent_sound.2.2
  known := isSectioned_overrideOne h.known h.isMap
  given value hvalue := by
    apply h.given value
    rw [Fields.get?_cons_of_ne, hvalue]
    rintro rfl
    cases h.absent_sound.1.symm.trans hvalue

theorem Fits.shares_step : ∀ other ∈ rest,
    (config.overrideOne field).shares name other.1.label = config.shares name other.1.label := by
  intro other hother
  apply shares_overrideOne (Fields.label_ne_of_mem h.absent_sound.1 hother) h.known h.isMap
    (h.below other (List.mem_cons_of_mem _ hother))
  intro place hplace
  have hsound := h.absent_sound.2.1
  rw [hplace, Data.isSound_shared] at hsound
  exact hsound.1

end Step

theorem override_cons (config : Config) (field : Scalar × Data) (rest : Fields) :
    config.override (field :: rest) = (config.overrideOne field).override rest := rfl

theorem get?_override_of_shared (h : Fits memory next last config overrides name) {place : Nat}
    (hplace : config.fields.get? name = some (.shared place)) :
    (config.override overrides).fields.get? name = some (.shared place) := by
  induction overrides generalizing config with
  | nil => exact hplace
  | cons field rest ih =>
      rw [override_cons]
      exact ih h.step (get?_overrideOne_of_shared hplace h.known h.isMap)

theorem isSectioned_override (h : Fits memory next last config overrides name) :
    (config.override overrides).memory.IsSectioned (config.override overrides).fields name := by
  induction overrides generalizing config with
  | nil => exact h.known
  | cons field rest ih => exact ih h.step

-- After all overrides a section has, for each key, the value of the last override for a section that
-- shares it.
theorem setting?_override (hmemory : memory.Holds next last)
    (h : Fits memory next last config overrides name) (key : Label) :
    (config.override overrides).setting? name key =
      (memory.lastGiven? (config.shares name) key overrides).or (config.setting? name key) := by
  induction overrides generalizing config with
  | nil => rfl
  | cons field rest ih =>
      have hfields : config.memory.fieldsOf field.2 = memory.fieldsOf field.2 := by
        rw [Memory.fieldsOf, Memory.fieldsOf, h.fields?]
      have hlabels : (memory.fieldsOf field.2).labels.Nodup :=
        (Data.isSound_map.mp (hmemory.fieldsOf h.absent_sound.2.1)).1
      rw [override_cons, ih h.step, Memory.lastGiven?_congr h.shares_step, Memory.lastGiven?,
        setting?_overrideOne h.known h.isMap (hfields ▸ hlabels), hfields, Option.or_assoc]

end Run

end Config

end Rehearsal
