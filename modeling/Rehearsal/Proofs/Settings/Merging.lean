import Rehearsal.Proofs.Log.Result
import Rehearsal.Proofs.Settings.Fields

namespace Rehearsal.Memory

-- What becomes of an older and a newer value for a label: of two maps the one that they are merged
-- to, and otherwise the newer value. An older value that stays is copied if it is a map.
inductive Merged (memory : Memory) (merge : Fields → Fields → Option Fields) :
    Option Data → Option Data → Option Data → Prop where
  | absent : Merged memory merge none none none
  | kept {old : Data} (plain : memory.fields? old = none) :
      Merged memory merge (some old) none (some old)
  | copied {old : Data} {fields copy : Fields} (isMap : memory.fields? old = some fields)
      (result : merge fields [] = some copy) : Merged memory merge (some old) none (some (.map copy))
  | replaced {old : Option Data} {value : Data}
      (plain : old.bind memory.fields? = none ∨ memory.fields? value = none) :
      Merged memory merge old (some value) (some value)
  | both {old value : Data} {fields copy newer merged : Fields}
      (oldMap : memory.fields? old = some fields) (copied : merge fields [] = some copy)
      (newMap : memory.fields? value = some newer) (result : merge copy newer = some merged) :
      Merged memory merge (some old) (some value) (some (.map merged))

-- What becomes of a value that is there when a newer one is put.
inductive Placed (memory : Memory) (merge : Fields → Fields → Option Fields) (known : Option Data) :
    Option Data → Option Data → Prop where
  | kept : Placed memory merge known none known
  | replaced {value : Data} (plain : known.bind memory.fields? = none ∨ memory.fields? value = none) :
      Placed memory merge known (some value) (some value)
  | merged {value : Data} {old newer merged : Fields} (oldMap : known.bind memory.fields? = some old)
      (newMap : memory.fields? value = some newer) (result : merge old newer = some merged) :
      Placed memory merge known (some value) (some (.map merged))

section Level

variable {memory : Memory} {merge : Fields → Fields → Option Fields}

theorem merged_copyOne {field copy : Scalar × Data} (h : memory.copyOne merge field = some copy) :
    copy.1 = field.1 ∧ Merged memory merge (some field.2) none (some copy.2) := by
  unfold copyOne at h
  cases hfields : memory.fields? field.2 with
  | none =>
      rw [hfields] at h
      cases h
      exact ⟨rfl, .kept hfields⟩
  | some fields =>
      rw [hfields] at h
      obtain ⟨inner, hinner, rfl⟩ := Option.map_eq_some_iff.mp h
      exact ⟨rfl, .copied hfields hinner⟩

theorem merged_copy {base copy : Fields} (h : base.mapM (memory.copyOne merge) = some copy)
    (label : Label) : Merged memory merge (base.get? label) none (copy.get? label) := by
  rw [Result.mapM_eq_some] at h
  induction h with
  | nil => exact .absent
  | @cons field other rest others hfield _ ih =>
      obtain ⟨hkey, hvalue⟩ := merged_copyOne hfield
      by_cases hlabel : label = field.1.label
      · subst hlabel
        rw [Fields.get?_cons_self, ← hkey, Fields.get?_cons_self]
        exact hvalue
      · have hother : label ≠ other.1.label := hkey ▸ hlabel
        rw [Fields.get?_cons_of_ne hlabel, Fields.get?_cons_of_ne hother]
        exact ih

theorem placed_mergeOne {known next : Fields} {field : Scalar × Data}
    (h : memory.mergeOne merge known field = some next) :
    ∃ value, next = known.put field.1 value ∧
      Placed memory merge (known.get? field.1.label) (some field.2) (some value) := by
  unfold mergeOne at h
  split at h
  · next old newer hold hnewer =>
    obtain ⟨merged, hmerged, rfl⟩ := Option.map_eq_some_iff.mp h
    exact ⟨_, rfl, .merged hold hnewer hmerged⟩
  · next hplain =>
    cases h
    refine ⟨_, rfl, .replaced ?_⟩
    cases hold : (known.get? field.1.label).bind memory.fields? with
    | none => exact .inl rfl
    | some old =>
        right
        cases hnewer : memory.fields? field.2 with
        | none => rfl
        | some newer => exact (hplain old newer hold hnewer).elim

theorem placed_foldlM {known newer result : Fields} (hlabels : newer.labels.Nodup)
    (h : newer.foldlM (memory.mergeOne merge) known = some result) (label : Label) :
    Placed memory merge (known.get? label) (newer.get? label) (result.get? label) := by
  induction newer generalizing known with
  | nil =>
      cases h
      exact .kept
  | cons field rest ih =>
      obtain ⟨habsent, hlabels⟩ := Fields.nodup_labels_cons.mp hlabels
      rw [List.foldlM_cons, Option.bind_eq_bind, Option.bind_eq_some_iff] at h
      obtain ⟨next, hnext, h⟩ := h
      obtain ⟨value, rfl, hvalue⟩ := placed_mergeOne hnext
      have hrest := ih hlabels h
      rw [Fields.get?_put] at hrest
      by_cases hlabel : label = field.1.label
      · -- The label does not come again, so what the step has put there stays.
        subst hlabel
        rw [habsent, if_pos rfl] at hrest
        generalize result.get? field.1.label = after at hrest
        cases hrest
        rw [Fields.get?_cons_self]
        exact hvalue
      · rw [if_neg hlabel] at hrest
        rw [Fields.get?_cons_of_ne hlabel]
        exact hrest

theorem isSome_foldlM {known newer : Fields} (hlabels : newer.labels.Nodup)
    (h : ∀ field ∈ newer, ∀ old inner,
      (known.get? field.1.label).bind memory.fields? = some old →
        memory.fields? field.2 = some inner → (merge old inner).isSome) :
    (newer.foldlM (memory.mergeOne merge) known).isSome := by
  induction newer generalizing known with
  | nil => rfl
  | cons field rest ih =>
      obtain ⟨habsent, hlabels⟩ := Fields.nodup_labels_cons.mp hlabels
      rw [List.forall_mem_cons] at h
      have hstep : (memory.mergeOne merge known field).isSome := by
        unfold mergeOne
        split
        · next old inner hold hinner => simpa using h.1 old inner hold hinner
        · rfl
      obtain ⟨next, hnext⟩ := Option.isSome_iff_exists.mp hstep
      obtain ⟨value, rfl, -⟩ := placed_mergeOne hnext
      rw [List.foldlM_cons, hnext]
      refine ih hlabels fun other hother old inner hold hinner => ?_
      rw [Fields.get?_put, if_neg (Fields.label_ne_of_mem habsent hother)] at hold
      exact h.2 other hother old inner hold hinner

-- A copy, and then the newer value in its place.
theorem Merged.place {before known newer result : Option Data}
    (h : Merged memory merge before none known) (hplaced : Placed memory merge known newer result) :
    Merged memory merge before newer result := by
  cases h with
  | absent =>
      cases hplaced with
      | kept => exact .absent
      | replaced plain => exact .replaced plain
      | merged oldMap => cases oldMap
  | kept isPlain =>
      cases hplaced with
      | kept => exact .kept isPlain
      | replaced plain => exact .replaced plain
      | merged oldMap => cases isPlain.symm.trans oldMap
  | copied isMap copied =>
      cases hplaced with
      | kept => exact .copied isMap copied
      | replaced plain => exact .replaced (plain.imp_left fun absent => by cases absent)
      | merged oldMap newMap result =>
          cases oldMap
          exact .both isMap copied newMap result

end Level

variable {memory : Memory} {depth low high : Nat} {base newer result : Fields}

-- Label by label, what is merged comes from the older value and the newer one.
theorem merged_merge? (hlabels : newer.labels.Nodup)
    (h : memory.merge? (depth + 1) base newer = some result) (label : Label) :
    Merged memory (memory.merge? depth) (base.get? label) (newer.get? label)
      (result.get? label) := by
  rw [merge?, Option.bind_eq_bind, Option.bind_eq_some_iff] at h
  obtain ⟨copy, hcopy, h⟩ := h
  exact (merged_copy hcopy label).place (placed_foldlM hlabels h label)

theorem merge?_nil (memory : Memory) (depth : Nat) (base : Fields) :
    memory.merge? (depth + 1) base [] = base.mapM (memory.copyOne (memory.merge? depth)) := by
  rw [merge?]
  cases base.mapM (memory.copyOne (memory.merge? depth)) <;> rfl

theorem merged_merge?_nil {fields copy : Fields}
    (h : memory.merge? (depth + 1) fields [] = some copy) (label : Label) :
    Merged memory (memory.merge? depth) (fields.get? label) none (copy.get? label) := by
  rw [merge?_nil] at h
  exact merged_copy h label

-- Maps that stand in each other to some depth.
inductive NestsMaps (memory : Memory) : Nat → Fields → Prop where
  | zero (fields : Fields) : NestsMaps memory 0 fields
  | succ {depth : Nat} {fields inner : Fields} {field : Scalar × Data} (mem : field ∈ fields)
      (isMap : memory.fields? field.2 = some inner) (deeper : NestsMaps memory depth inner) :
      NestsMaps memory (depth + 1) fields

theorem nestsMaps_succ {fields : Fields} : NestsMaps memory (depth + 1) fields ↔
    ∃ field ∈ fields, ∃ inner, memory.fields? field.2 = some inner ∧
      NestsMaps memory depth inner := by
  constructor
  · intro h
    cases h with
    | succ mem isMap deeper => exact ⟨_, mem, _, isMap, deeper⟩
  · rintro ⟨field, mem, inner, isMap, deeper⟩
    exact .succ mem isMap deeper

-- A copy does not nest deeper than what was copied.
theorem not_nestsMaps_of_copy {copy : Fields} (h : memory.merge? depth base [] = some copy) :
    ¬ NestsMaps memory depth copy := by
  induction depth generalizing base copy with
  | zero => cases h
  | succ depth ih =>
      rw [merge?_nil] at h
      rw [nestsMaps_succ]
      rintro ⟨field, hfield, inner, hinner, hdeeper⟩
      obtain ⟨original, -, horiginal⟩ := Result.exists_of_mem_mapM h hfield
      obtain ⟨-, hvalue⟩ := merged_copyOne horiginal
      generalize hafter : field.2 = after at hvalue hinner
      cases hvalue with
      | kept plain => cases plain.symm.trans hinner
      | copied isMap copied =>
          cases hinner
          exact ih copied hdeeper

theorem Merged.not_nestsMaps {before known : Option Data} {old : Fields}
    (h : Merged memory (memory.merge? depth) before none known)
    (hold : known.bind memory.fields? = some old) : ¬ NestsMaps memory depth old := by
  cases h with
  | absent => cases hold
  | kept plain => cases plain.symm.trans hold
  | copied isMap copied =>
      cases hold
      exact not_nestsMaps_of_copy copied

-- Merging fails exactly if the maps to copy nest too deep.
theorem merge?_eq_none_iff (hmemory : memory.Holds low high)
    (hnewer : (Data.map newer).isSound low high) :
    memory.merge? depth base newer = none ↔ NestsMaps memory depth base := by
  induction depth generalizing base newer with
  | zero => exact iff_of_true rfl (.zero base)
  | succ depth ih =>
      have hempty : (Data.map []).isSound low high := rfl
      rw [nestsMaps_succ]
      have hcopies : base.mapM (memory.copyOne (memory.merge? depth)) = none ↔
          ∃ field ∈ base, ∃ inner, memory.fields? field.2 = some inner ∧
            NestsMaps memory depth inner := by
        rw [Result.mapM_eq_none]
        refine exists_congr fun field => and_congr_right fun _ => ?_
        unfold copyOne
        cases memory.fields? field.2 with
        | none => simp
        | some inner => simp [ih hempty]
      rw [← hcopies, merge?]
      cases hcopy : base.mapM (memory.copyOne (memory.merge? depth)) with
      | none => exact iff_of_true rfl rfl
      | some copy =>
          refine iff_of_false ?_ (by simp)
          obtain ⟨hlabels, heach⟩ := Data.isSound_map.mp hnewer
          have hsome : (newer.foldlM (memory.mergeOne (memory.merge? depth)) copy).isSome := by
            refine isSome_foldlM hlabels fun field hfield old inner hold hinner => ?_
            have hsound := hmemory.fields? (heach field hfield) hinner
            rw [Option.isSome_iff_ne_none, Ne, ih hsound]
            exact (merged_copy hcopy field.1.label).not_nestsMaps hold
          exact Option.isSome_iff_ne_none.mp hsome

end Rehearsal.Memory
