import Rehearsal.Proofs.Assoc
import Rehearsal.Settings.Merge

namespace Rehearsal

namespace Fields

-- The values by label.
def pairs (fields : Fields) : List (Label × Data) :=
  fields.map fun field => (field.1.label, field.2)

def labels (fields : Fields) : List Label := Assoc.keys fields.pairs

theorem labels_eq (fields : Fields) : fields.labels = fields.map (·.1.label) := by
  rw [labels, Assoc.keys, pairs, List.map_map]
  rfl

theorem get?_eq_lookup (fields : Fields) (label : Label) :
    fields.get? label = fields.pairs.lookup label := by
  unfold get?
  induction fields with
  | nil => rfl
  | cons field rest ih =>
      rw [List.find?_cons, pairs, List.map_cons, List.lookup_cons, BEq.comm]
      cases label == field.1.label with
      | true => rfl
      | false => exact ih

theorem pairs_put (key : Scalar) (value : Data) (fields : Fields) :
    (put key value fields).pairs = Assoc.put key.label value fields.pairs := by
  induction fields with
  | nil => rfl
  | cons field rest ih =>
      simp only [pairs, put, List.map_cons, Assoc.put] at ih ⊢
      split
      · rfl
      · rw [List.map_cons, ih]

theorem pairs_putAll (fields newer : Fields) :
    (putAll fields newer).pairs = Assoc.putAll fields.pairs newer.pairs := by
  unfold putAll Assoc.putAll
  induction newer generalizing fields with
  | nil => rfl
  | cons field rest ih =>
      rw [List.foldl_cons, ih, pairs_put]
      rfl

@[simp] theorem get?_nil (label : Label) : get? [] label = none := rfl

theorem get?_put (key : Scalar) (value : Data) (fields : Fields) (label : Label) :
    (put key value fields).get? label = if label = key.label then some value
      else fields.get? label := by
  rw [get?_eq_lookup, get?_eq_lookup, pairs_put, Assoc.lookup_put]

theorem get?_eq_none_iff {fields : Fields} {label : Label} :
    fields.get? label = none ↔ label ∉ fields.labels := by
  rw [get?_eq_lookup, Assoc.lookup_eq_none_iff, labels]

theorem get?_cons_of_ne {field : Scalar × Data} {rest : Fields} {label : Label}
    (h : label ≠ field.1.label) : get? (field :: rest) label = get? rest label := by
  rw [get?_eq_lookup, get?_eq_lookup]
  exact Assoc.lookup_cons_of_ne h _ _

theorem get?_cons_self (field : Scalar × Data) (rest : Fields) :
    get? (field :: rest) field.1.label = some field.2 := by
  rw [get?_eq_lookup]
  exact List.lookup_cons_self

theorem mem_of_get? {fields : Fields} {label : Label} {value : Data}
    (h : fields.get? label = some value) : ∃ field ∈ fields, field.1.label = label ∧
      field.2 = value := by
  rw [get?_eq_lookup] at h
  obtain ⟨field, hfield, heq⟩ := List.mem_map.mp (Assoc.mem_of_lookup h)
  cases heq
  exact ⟨field, hfield, rfl, rfl⟩

theorem label_ne_of_mem {fields : Fields} {label : Label} (h : fields.get? label = none)
    {field : Scalar × Data} (hmem : field ∈ fields) : field.1.label ≠ label := by
  rintro rfl
  rw [get?_eq_none_iff, labels_eq] at h
  exact h (List.mem_map_of_mem hmem)

theorem nodup_labels_cons {field : Scalar × Data} {rest : Fields} :
    (labels (field :: rest)).Nodup ↔ get? rest field.1.label = none ∧ rest.labels.Nodup := by
  rw [get?_eq_none_iff]
  exact List.nodup_cons

theorem get?_putAll {newer : Fields} (h : newer.labels.Nodup) (fields : Fields) (label : Label) :
    (putAll fields newer).get? label = (newer.get? label).or (fields.get? label) := by
  have hreverse : newer.pairs.reverse.lookup label = newer.pairs.lookup label := by
    have hnodup : (Assoc.keys newer.pairs.reverse).Nodup := by
      rw [Assoc.keys, List.map_reverse, List.nodup_reverse]
      exact h
    ext value
    rw [← Assoc.mem_iff_lookup hnodup, List.mem_reverse, Assoc.mem_iff_lookup h]
  rw [get?_eq_lookup, get?_eq_lookup, get?_eq_lookup, pairs_putAll, Assoc.lookup_putAll, hreverse]

theorem hasTwice_eq_false {fields : Fields} : fields.hasTwice = false ↔ fields.labels.Nodup := by
  induction fields with
  | nil => simp [hasTwice, labels_eq]
  | cons field rest ih =>
      rw [hasTwice, Bool.or_eq_false_iff, ih, nodup_labels_cons, Option.isSome_eq_false_iff,
        Option.isNone_iff_eq_none]

theorem erase_sublist (fields : Fields) (label : Label) : (fields.erase label).Sublist fields :=
  List.filter_sublist

theorem erase_of_get?_eq_none {fields : Fields} {label : Label} (h : fields.get? label = none) :
    fields.erase label = fields := by
  rw [erase, List.filter_eq_self]
  intro field hfield
  exact bne_iff_ne.mpr (label_ne_of_mem h hfield)

end Fields

section Sound

variable {low high : Nat}

theorem haveSound_iff {fields : Fields} :
    haveSound low high fields = true ↔ ∀ field ∈ fields, field.2.isSound low high := by
  induction fields with
  | nil => simp [haveSound]
  | cons field rest ih => rw [haveSound, Bool.and_eq_true, ih, List.forall_mem_cons]

theorem Data.isSound_map {fields : Fields} :
    (Data.map fields).isSound low high ↔
      fields.labels.Nodup ∧ ∀ field ∈ fields, field.2.isSound low high := by
  rw [Data.isSound, Bool.and_eq_true, Bool.not_eq_true', Fields.hasTwice_eq_false, haveSound_iff]

theorem Data.isSound_shared {place : Nat} :
    (Data.shared place).isSound low high ↔ low ≤ place ∧ place < high := by
  rw [Data.isSound, Bool.and_eq_true, decide_eq_true_eq, decide_eq_true_eq]

theorem Data.isSound_erase {fields : Fields} (h : (Data.map fields).isSound low high)
    (label : Label) : (Data.map (fields.erase label)).isSound low high := by
  have hsub := Fields.erase_sublist fields label
  rw [Data.isSound_map, Fields.labels_eq] at h ⊢
  exact ⟨h.1.sublist (hsub.map _), fun field hfield => h.2 field (hsub.subset hfield)⟩

end Sound

-- The values that stand right in a value.
def Data.parts : Data → List Data
  | .list items => items
  | .pair first second => [first, second]
  | .map fields => fields.map Prod.snd
  | _ => []

namespace Memory

-- What stands at some places refers to these places only.
def Holds (memory : Memory) (low high : Nat) : Prop :=
  ∀ place, low ≤ place → place < high → (memory.look (.shared place)).isSound low high

-- Two memories that hold the same from some place on.
def AgreeFrom (place : Nat) (memory other : Memory) : Prop :=
  ∀ later, place ≤ later → other.look (.shared later) = memory.look (.shared later)

section Look

variable {memory other : Memory} {low high : Nat} {value : Data}

theorem Holds.look (h : memory.Holds low high) (hvalue : value.isSound low high) :
    (memory.look value).isSound low high := by
  cases value with
  | shared place =>
      rw [Data.isSound_shared] at hvalue
      exact h place hvalue.1 hvalue.2
  | _ => exact hvalue

theorem Holds.fields? (h : memory.Holds low high) (hvalue : value.isSound low high)
    {fields : Fields} (hfields : memory.fields? value = some fields) :
    (Data.map fields).isSound low high := by
  have hlook := h.look hvalue
  unfold Memory.fields? at hfields
  split at hfields
  · next hmap =>
    cases hfields
    rwa [hmap] at hlook
  · cases hfields

theorem Holds.fieldsOf (h : memory.Holds low high) (hvalue : value.isSound low high) :
    (Data.map (memory.fieldsOf value)).isSound low high := by
  unfold Memory.fieldsOf
  cases hfields : memory.fields? value with
  | none => rfl
  | some fields => exact h.fields? hvalue hfields

theorem AgreeFrom.look (h : AgreeFrom low memory other) (hvalue : value.isSound low high) :
    other.look value = memory.look value := by
  cases value with
  | shared place => exact h place (Data.isSound_shared.mp hvalue).1
  | _ => rfl

theorem AgreeFrom.fields? (h : AgreeFrom low memory other) (hvalue : value.isSound low high) :
    other.fields? value = memory.fields? value := by
  rw [Memory.fields?, Memory.fields?, h.look hvalue]

theorem AgreeFrom.holds (h : AgreeFrom low memory other) (hmemory : memory.Holds low high) :
    other.Holds low high := by
  intro place hlow hhigh
  rw [h place hlow]
  exact hmemory place hlow hhigh

end Look

@[simp] theorem fields?_map (memory : Memory) (fields : Fields) :
    memory.fields? (.map fields) = some fields := rfl

-- The value of a key in a section.
def setting? (memory : Memory) (fields : Fields) (name key : Label) : Option Data :=
  ((fields.get? name).bind memory.fields?).bind (·.get? key)

theorem Holds.setting? {memory : Memory} {low high : Nat} {fields : Fields} {name key : Label}
    {value : Data} (h : memory.Holds low high) (hfields : (Data.map fields).isSound low high)
    (hvalue : memory.setting? fields name key = some value) : value.isSound low high := by
  unfold Memory.setting? at hvalue
  obtain ⟨inner, hinner, hvalue⟩ := Option.bind_eq_some_iff.mp hvalue
  obtain ⟨content, hcontent, hinner⟩ := Option.bind_eq_some_iff.mp hinner
  obtain ⟨field, hfield, -, rfl⟩ := Fields.mem_of_get? hcontent
  have hsound := h.fields? ((Data.isSound_map.mp hfields).2 field hfield) hinner
  obtain ⟨entry, hentry, -, rfl⟩ := Fields.mem_of_get? hvalue
  exact (Data.isSound_map.mp hsound).2 entry hentry

-- A section is left out or is a map.
def IsSectioned (memory : Memory) (fields : Fields) (name : Label) : Prop :=
  ∀ value, fields.get? name = some value → (memory.fields? value).isSome

end Memory

end Rehearsal
