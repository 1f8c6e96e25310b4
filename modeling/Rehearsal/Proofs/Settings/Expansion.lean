import Mathlib.Data.List.Forall2
import Rehearsal.Proofs.Log.Result
import Rehearsal.Proofs.Settings.Merging

namespace Rehearsal

namespace Environment

-- The text that refers to a variable.
def reference (name : String) : String := "$\x7b" ++ name ++ "\x7d"

-- What a text stands for: a reference for the value of its variable, if that is set, and any other
-- text for itself.
inductive Reads (environ : Environment) : String → String → Prop where
  | set {name value : String} (known : environ.lookup name = some value) :
      Reads environ (reference name) value
  | unset {name : String} (unknown : environ.lookup name = none) :
      Reads environ (reference name) (reference name)
  | plain {text : String} (other : ∀ name, text ≠ reference name) : Reads environ text text

theorem referred?_eq_some {text name : String} :
    referred? text = some name ↔ text = reference name := by
  rw [← String.toList_inj]
  have hreference : (reference name).toList = '$' :: '\x7b' :: (name.toList ++ ['\x7d']) := by
    simp [reference]
  rw [hreference]
  unfold referred?
  split
  · next rest htext =>
    rw [htext]
    simp only [List.cons.injEq, true_and]
    constructor
    · intro h
      split at h
      · next hlast =>
        rw [← Option.some.inj h, String.toList_ofList]
        exact (List.dropLast_append_getLast? _ hlast).symm
      · cases h
    · rintro rfl
      simp
  · next hother =>
    constructor
    · intro h
      cases h
    · intro h
      exact absurd h (hother _)

theorem expandText_reference (environ : Environment) (name : String) :
    environ.expandText (reference name) = (environ.lookup name).getD (reference name) := by
  unfold expandText
  rw [referred?_eq_some.mpr rfl]

-- A text stands for one thing only.
theorem reads_iff {environ : Environment} {text value : String} :
    environ.Reads text value ↔ value = environ.expandText text := by
  constructor
  · intro h
    cases h with
    | set known => rw [expandText_reference, known, Option.getD_some]
    | unset unknown => rw [expandText_reference, unknown, Option.getD_none]
    | plain other =>
        have hnone : referred? text = none := by
          rw [Option.eq_none_iff_forall_ne_some]
          intro name hname
          exact other name (referred?_eq_some.mp hname)
        rw [expandText, hnone]
  · rintro rfl
    cases hname : referred? text with
    | none =>
        rw [expandText, hname]
        refine .plain fun name htext => ?_
        cases (referred?_eq_some.mpr htext).symm.trans hname
    | some name =>
        rw [referred?_eq_some] at hname
        subst hname
        rw [expandText_reference]
        cases hvalue : environ.lookup name with
        | none => exact .unset hvalue
        | some value => exact .set hvalue

end Environment

namespace Memory

variable {memory other : Memory} {environ : Environment} {depth : Nat}

-- What a value stands for: its texts are read, also those in its lists and maps. All else stands
-- for itself.
inductive StandsFor (memory : Memory) (environ : Environment) : Data → Data → Prop where
  | text {value : Data} {text read : String} (isText : memory.look value = .text text)
      (reads : environ.Reads text read) : StandsFor memory environ value (.text read)
  | list {value : Data} {items others : List Data} (isList : memory.look value = .list items)
      (each : List.Forall₂ (StandsFor memory environ) items others) :
      StandsFor memory environ value (.list others)
  | map {value : Data} {fields others : Fields} (isMap : memory.look value = .map fields)
      (keys : others.map Prod.fst = fields.map Prod.fst)
      (each : List.Forall₂ (StandsFor memory environ) (fields.map Prod.snd)
        (others.map Prod.snd)) : StandsFor memory environ value (.map others)
  | other {value : Data} (notText : ∀ text, memory.look value ≠ .text text)
      (notList : ∀ items, memory.look value ≠ .list items)
      (notMap : memory.fields? value = none) : StandsFor memory environ value value

-- Lists and maps that stand in each other to some depth.
inductive Nests (memory : Memory) : Nat → Data → Prop where
  | zero (value : Data) : Nests memory 0 value
  | item {depth : Nat} {value item : Data} {items : List Data}
      (isList : memory.look value = .list items) (mem : item ∈ items)
      (deeper : Nests memory depth item) : Nests memory (depth + 1) value
  | field {depth : Nat} {value : Data} {fields : Fields} {field : Scalar × Data}
      (isMap : memory.look value = .map fields) (mem : field ∈ fields)
      (deeper : Nests memory depth field.2) : Nests memory (depth + 1) value

-- The places that a value refers to, directly or through others.
inductive Reaches (memory : Memory) : Data → Nat → Prop where
  | here (place : Nat) : Reaches memory (.shared place) place
  | part {value part : Data} {place : Nat} (mem : part ∈ (memory.look value).parts)
      (further : Reaches memory part place) : Reaches memory value place

theorem fields?_eq_some {value : Data} {fields : Fields} :
    memory.fields? value = some fields ↔ memory.look value = .map fields := by
  unfold fields?
  split
  · next hlook => rw [hlook, Data.map.injEq, Option.some.injEq]
  · next hother => exact iff_of_false (by simp) (hother fields)

-- What a value is expanded to depends on what it reaches only.
theorem expand?_congr {value : Data} (h : ∀ place, memory.Reaches value place →
      other.look (.shared place) = memory.look (.shared place)) :
    other.expand? environ depth value = memory.expand? environ depth value := by
  induction depth generalizing value with
  | zero => rfl
  | succ depth ih =>
      have hlook : other.look value = memory.look value := by
        cases value with
        | shared place => exact h place (.here place)
        | _ => rfl
      rw [expand?, expand?, hlook]
      split
      · rfl
      · next items hitems =>
        rw [Result.mapM_congr fun item hitem =>
          ih fun place hplace => h place (.part (hitems ▸ hitem) hplace)]
      · next fields hfields =>
        have heach : ∀ field ∈ fields, other.expand? environ depth field.2 =
            memory.expand? environ depth field.2 := by
          intro field hfield
          refine ih fun place hplace => h place (.part ?_ hplace)
          rw [hfields]
          exact List.mem_map_of_mem hfield
        rw [Result.mapM_congr fun field hfield => by rw [heach field hfield]]
      · rfl

-- The fields of a map are expanded one by one.
def expandFields? (memory : Memory) (environ : Environment) (depth : Nat) (fields : Fields) :
    Option Fields :=
  fields.mapM fun field =>
    (memory.expand? environ depth field.2).map fun value => (field.1, value)

theorem expand?_succ (value : Data) : memory.expand? environ (depth + 1) value =
    match memory.look value with
    | .scalar (.text text) => some (.text (environ.expandText text))
    | .list items => (items.mapM (memory.expand? environ depth)).map .list
    | .map fields => (memory.expandFields? environ depth fields).map .map
    | _ => some value := rfl

theorem expand?_of_map {value : Data} {fields : Fields} (h : memory.fields? value = some fields) :
    memory.expand? environ (depth + 1) value =
      (memory.expandFields? environ depth fields).map .map := by
  rw [expand?_succ, fields?_eq_some.mp h]

theorem forall₂_expandFields? {fields result : Fields}
    (h : memory.expandFields? environ depth fields = some result) :
    List.Forall₂ (fun field other => other.1 = field.1 ∧
      memory.expand? environ depth field.2 = some other.2) fields result := by
  rw [expandFields?, Result.mapM_eq_some] at h
  refine h.imp fun field other hfield => ?_
  obtain ⟨value, hvalue, rfl⟩ := Option.map_eq_some_iff.mp hfield
  exact ⟨rfl, hvalue⟩

theorem rel_get?_expandFields? {fields result : Fields}
    (h : memory.expandFields? environ depth fields = some result) (label : Label) :
    Option.Rel (fun value other => memory.expand? environ depth value = some other)
      (fields.get? label) (result.get? label) := by
  have heach := forall₂_expandFields? h
  clear h
  induction heach with
  | nil => exact .none
  | @cons field other rest others hfield _ ih =>
      obtain ⟨hkey, hvalue⟩ := hfield
      by_cases hlabel : label = field.1.label
      · rw [hlabel, Fields.get?_cons_self, ← hkey, Fields.get?_cons_self]
        exact .some hvalue
      · have hother : label ≠ other.1.label := hkey ▸ hlabel
        rw [Fields.get?_cons_of_ne hlabel, Fields.get?_cons_of_ne hother]
        exact ih

theorem fields?_of_expand? {value result : Data}
    (h : memory.expand? environ (depth + 1) value = some result) :
    memory.fields? result = (memory.fields? value).bind (memory.expandFields? environ depth) := by
  cases hfields : memory.fields? value with
  | some fields =>
      rw [expand?_of_map hfields] at h
      obtain ⟨others, hothers, rfl⟩ := Option.map_eq_some_iff.mp h
      rw [Option.bind_some, hothers, fields?_map]
  | none =>
      rw [expand?_succ] at h
      split at h
      · cases h
        rfl
      · obtain ⟨others, -, rfl⟩ := Option.map_eq_some_iff.mp h
        rfl
      · next fields hmap => cases hfields.symm.trans (fields?_eq_some.mpr hmap)
      · cases h
        exact hfields

theorem isSome_fields?_of_expand? {value result : Data}
    (h : memory.expand? environ (depth + 1) value = some result) :
    (memory.fields? result).isSome = (memory.fields? value).isSome := by
  rw [fields?_of_expand? h]
  cases hfields : memory.fields? value with
  | none => rfl
  | some fields =>
      rw [expand?_of_map hfields] at h
      obtain ⟨others, hothers, -⟩ := Option.map_eq_some_iff.mp h
      rw [Option.bind_some, hothers]
      rfl

-- Section by section and key by key.
theorem rel_setting?_expandFields? {fields result : Fields}
    (h : memory.expandFields? environ (depth + 1) fields = some result) (name key : Label) :
    Option.Rel (fun value other => memory.expand? environ depth value = some other)
      (memory.setting? fields name key) (memory.setting? result name key) := by
  unfold setting?
  have hname := rel_get?_expandFields? h name
  generalize fields.get? name = before at hname
  generalize result.get? name = after at hname
  cases hname with
  | none => exact .none
  | @some value other hvalue =>
      rw [Option.bind_some, Option.bind_some, fields?_of_expand? hvalue]
      cases hfields : memory.fields? value with
      | none => exact .none
      | some fields =>
          rw [expand?_of_map hfields] at hvalue
          obtain ⟨others, hothers, rfl⟩ := Option.map_eq_some_iff.mp hvalue
          rw [Option.bind_some, Option.bind_some, hothers]
          exact rel_get?_expandFields? hothers key

theorem standsFor_of_expand? {value result : Data}
    (h : memory.expand? environ depth value = some result) :
    memory.StandsFor environ value result := by
  induction depth generalizing value result with
  | zero => cases h
  | succ depth ih =>
      rw [expand?_succ] at h
      split at h
      · next text htext =>
        cases h
        exact .text htext (Environment.reads_iff.mpr rfl)
      · next items hitems =>
        obtain ⟨others, hothers, rfl⟩ := Option.map_eq_some_iff.mp h
        rw [Result.mapM_eq_some] at hothers
        exact .list hitems (hothers.imp fun _ _ => ih)
      · next fields hfields =>
        obtain ⟨others, hothers, rfl⟩ := Option.map_eq_some_iff.mp h
        have heach := forall₂_expandFields? hothers
        refine .map hfields ?_ ?_
        · rw [← List.forall₂_eq_eq_eq, List.forall₂_map_left_iff, List.forall₂_map_right_iff]
          exact heach.flip.imp fun _ _ hfield => hfield.1
        · rw [List.forall₂_map_left_iff, List.forall₂_map_right_iff]
          exact heach.imp fun _ _ hfield => ih hfield.2
      · next htext hitems hfields =>
        cases h
        refine .other htext hitems ?_
        rw [Option.eq_none_iff_forall_ne_some]
        intro fields hsome
        exact hfields fields (fields?_eq_some.mp hsome)

theorem expand?_eq_none_iff {value : Data} :
    memory.expand? environ depth value = none ↔ memory.Nests depth value := by
  induction depth generalizing value with
  | zero => exact iff_of_true rfl (.zero value)
  | succ depth ih =>
      rw [expand?_succ]
      split
      · next text htext =>
        refine iff_of_false (by simp) fun h => ?_
        cases h with
        | item isList => cases htext.symm.trans isList
        | field isMap => cases htext.symm.trans isMap
      · next items hitems =>
        rw [Option.map_eq_none_iff, Result.mapM_eq_none]
        constructor
        · rintro ⟨item, hitem, hnone⟩
          exact .item hitems hitem (ih.mp hnone)
        · intro h
          cases h with
          | item isList mem deeper =>
              cases hitems.symm.trans isList
              exact ⟨_, mem, ih.mpr deeper⟩
          | field isMap => cases hitems.symm.trans isMap
      · next fields hfields =>
        rw [Option.map_eq_none_iff, expandFields?, Result.mapM_eq_none]
        constructor
        · rintro ⟨field, hfield, hnone⟩
          exact .field hfields hfield (ih.mp (Option.map_eq_none_iff.mp hnone))
        · intro h
          cases h with
          | item isList => cases hfields.symm.trans isList
          | field isMap mem deeper =>
              cases hfields.symm.trans isMap
              exact ⟨_, mem, Option.map_eq_none_iff.mpr (ih.mpr deeper)⟩
      · next htext hitems hfields =>
        refine iff_of_false (by simp) fun h => ?_
        cases h with
        | item isList => exact hitems _ isList
        | field isMap => exact hfields _ isMap

theorem NestsMaps.nests {fields : Fields} (h : NestsMaps memory depth fields) :
    memory.Nests depth (.map fields) := by
  induction h with
  | zero fields => exact .zero _
  | @succ depth fields inner field mem isMap _ ih =>
      refine .field rfl mem ?_
      cases ih with
      | zero _ => exact .zero _
      | item isList => cases isList
      | field isInner mem deeper =>
          cases isInner
          exact .field (fields?_eq_some.mp isMap) mem deeper

-- A copy is expanded to the same.
theorem expandFields?_copy {fields copy : Fields} {levels : Nat}
    (h : memory.merge? levels fields [] = some copy) :
    memory.expandFields? environ depth copy = memory.expandFields? environ depth fields := by
  induction levels generalizing fields copy depth with
  | zero => cases h
  | succ levels ih =>
      rw [merge?_nil, Result.mapM_eq_some] at h
      unfold expandFields?
      induction h with
      | nil => rfl
      | @cons field other rest others hfield _ hrest =>
          obtain ⟨hkey, hvalue⟩ := merged_copyOne hfield
          have hone : memory.expand? environ depth other.2 =
              memory.expand? environ depth field.2 := by
            generalize other.2 = after at hvalue
            cases hvalue with
            | kept _ => rfl
            | copied isMap copied =>
                cases depth with
                | zero => rfl
                | succ depth =>
                    rw [expand?_of_map isMap, expand?_of_map (fields?_map _ _), ih copied]
          rw [List.mapM_cons, List.mapM_cons, hrest, hone, hkey]

theorem expand?_copy {value : Data} {fields copy : Fields} {levels : Nat}
    (hfields : memory.fields? value = some fields)
    (h : memory.merge? levels fields [] = some copy) :
    memory.expand? environ depth (.map copy) = memory.expand? environ depth value := by
  cases depth with
  | zero => rfl
  | succ depth => rw [expand?_of_map hfields, expand?_of_map (fields?_map _ _), expandFields?_copy h]

variable {low high : Nat} {base newer result : Fields}

-- A value that may be missing, and that is no map.
def IsPlain (memory : Memory) (value : Option Data) : Prop :=
  ∀ content, value = some content → memory.fields? content = none

theorem isPlain_none (memory : Memory) : memory.IsPlain none := by
  intro content h
  cases h

-- Nothing is lost when values are put together, and a newer value that is no map counts. An older
-- one that stays is copied at most.
structure Combines (memory : Memory) (old newer result : Option Data) : Prop where
  isSome : result.isSome = (old.isSome || newer.isSome)
  plain : memory.IsPlain newer → memory.IsPlain old → result = newer.or old
  alike : memory.IsPlain newer → ∀ environ depth, result.bind (memory.expand? environ depth) =
    (newer.or old).bind (memory.expand? environ depth)

theorem combines_of_eq {old newer result : Option Data} (h : result = newer.or old) :
    Combines memory old newer result where
  isSome := by rw [h, Option.isSome_or, Bool.or_comm]
  plain _ _ := h
  alike _ _ _ := by rw [h]

theorem Merged.combines {levels : Nat} {old value merged : Option Data}
    (h : Merged memory (memory.merge? levels) old value merged) :
    Combines memory old value merged := by
  cases h with
  | absent => exact combines_of_eq rfl
  | kept _ => exact combines_of_eq rfl
  | copied isMap copied =>
      refine ⟨rfl, fun _ hold => ?_, fun _ environ depth => ?_⟩
      · cases (hold _ rfl).symm.trans isMap
      · exact expand?_copy isMap copied
  | replaced _ => exact combines_of_eq rfl
  | both _ _ newMap _ =>
      refine ⟨rfl, fun hnewer => ?_, fun hnewer => ?_⟩
      · cases (hnewer _ rfl).symm.trans newMap
      · cases (hnewer _ rfl).symm.trans newMap

theorem Combines.trans {old known value merged : Option Data} (hcopy : Combines memory old none known)
    (h : Combines memory known value merged) : Combines memory old value merged where
  isSome := by rw [h.isSome, hcopy.isSome, Option.isSome_none, Bool.or_false]
  plain hvalue hold := by
    have hknown : known = old := hcopy.plain memory.isPlain_none hold
    subst hknown
    exact h.plain hvalue hold
  alike hvalue environ depth := by
    rw [h.alike hvalue]
    cases value with
    | none => exact hcopy.alike hvalue environ depth
    | some value => rfl

-- Section by section and key by key.
theorem combines_setting? (hmemory : memory.Holds low high)
    (hnewer : (Data.map newer).isSound low high)
    (h : memory.merge? (depth + 2) base newer = some result) {name : Label}
    (hold : memory.IsSectioned base name) (hnew : memory.IsSectioned newer name) :
    memory.IsSectioned result name ∧ ∀ key, Combines memory (memory.setting? base name key)
      (memory.setting? newer name key) (memory.setting? result name key) := by
  obtain ⟨hlabels, heach⟩ := Data.isSound_map.mp hnewer
  have hmerged := merged_merge? hlabels h name
  unfold IsSectioned setting? at *
  generalize base.get? name = before at hmerged hold
  generalize result.get? name = after at hmerged
  cases hvalue : newer.get? name with
  | none =>
      rw [hvalue] at hmerged
      cases hmerged with
      | absent => exact ⟨by simp, fun key => combines_of_eq rfl⟩
      | kept plain => simp [plain] at hold
      | copied isMap copied =>
          refine ⟨by simp, fun key => ?_⟩
          simp only [Option.bind_some, isMap, fields?_map, Option.bind_none]
          exact (merged_merge?_nil copied key).combines
  | some value =>
      rw [hvalue] at hmerged
      obtain ⟨given, hgiven⟩ := Option.isSome_iff_exists.mp (hnew value hvalue)
      cases hmerged with
      | replaced plain =>
          have habsent : before = none := by
            cases before with
            | none => rfl
            | some old =>
                obtain ⟨fields, hfields⟩ := Option.isSome_iff_exists.mp (hold old rfl)
                simp [hfields, hgiven] at plain
          subst habsent
          refine ⟨by simp [hgiven], fun key => ?_⟩
          simp only [Option.bind_some, hgiven, Option.bind_none]
          exact combines_of_eq (Option.or_none ..).symm
      | both oldMap copied newMap merged =>
          cases hgiven.symm.trans newMap
          obtain ⟨field, hfield, -, rfl⟩ := Fields.mem_of_get? hvalue
          have hgiven := Data.isSound_map.mp (hmemory.fields? (heach field hfield) newMap)
          refine ⟨by simp, fun key => ?_⟩
          simp only [Option.bind_some, oldMap, newMap, fields?_map]
          exact (merged_merge?_nil copied key).combines.trans
            (merged_merge? hgiven.1 merged key).combines

end Memory

namespace Config

theorem expand?_eq (config : Config) (environ : Environment) (depth : Nat) :
    config.expand? environ (depth + 1) =
      (config.memory.expandFields? environ depth config.fields).map
        fun fields => { config with fields } := by
  rw [expand?, Memory.expand?_of_map (Memory.fields?_map _ _)]
  cases config.memory.expandFields? environ depth config.fields <;> rfl

theorem expand?_eq_none_iff {config : Config} {environ : Environment} {depth : Nat} :
    config.expand? environ depth = none ↔ config.memory.Nests depth (.map config.fields) := by
  rw [← @Memory.expand?_eq_none_iff config.memory environ depth]
  cases depth with
  | zero => exact iff_of_true rfl rfl
  | succ depth => rw [expand?_eq, Option.map_eq_none_iff,
      Memory.expand?_of_map (Memory.fields?_map _ _), Option.map_eq_none_iff]

-- A copy is made only if it can be expanded, and it is expanded to the same.
theorem expand?_merge?_nil (config : Config) (environ : Environment) (depth : Nat) :
    (config.merge? (depth + 1) []).bind (·.expand? environ (depth + 1)) =
      config.expand? environ (depth + 1) := by
  rw [merge?]
  cases hcopy : config.memory.merge? (depth + 1) config.fields [] with
  | none =>
      have hholds : config.memory.Holds 0 0 := fun place _ hplace => absurd hplace place.not_lt_zero
      rw [Memory.merge?_eq_none_iff hholds rfl] at hcopy
      exact (expand?_eq_none_iff.mpr hcopy.nests).symm
  | some copy =>
      rw [Option.map_some, Option.bind_some, expand?_eq, expand?_eq,
        Memory.expandFields?_copy hcopy]

end Config

end Rehearsal
