import Rehearsal.Proofs.Feature.Effect
import Rehearsal.Proofs.Feature.Row

namespace Rehearsal

namespace Feature

variable {S : Step → Prop} {E : Examples → Prop}

-- Every step has a property, and so has every set of examples.
structure Each (S : Step → Prop) (E : Examples → Prop) (feature : Feature) : Prop where
  background : ∀ given ∈ feature.background, ∀ step ∈ given.steps, S step
  steps : ∀ scenario ∈ feature.scenarios, ∀ step ∈ scenario.steps, S step
  examples : ∀ scenario ∈ feature.scenarios, ∀ e ∈ scenario.examples, E e

theorem each_opened {front : Feature} {e : Element} (h : front.CanOpen e) :
    (front.opened e).Each S E ↔
      front.Each S E ∧ (∀ step ∈ e.steps, S step) ∧ ∀ set ∈ e.examples, E set := by
  cases e with
  | background value =>
      obtain ⟨hgiven, hfirst⟩ := h
      constructor
      · intro hall
        exact ⟨⟨by simp [hgiven], by simp [hfirst], by simp [hfirst]⟩,
          hall.background value rfl, by simp [Element.examples]⟩
      · rintro ⟨-, hsteps, -⟩
        refine ⟨?_, by simp [opened], by simp [opened]⟩
        rintro _ ⟨⟩
        exact hsteps
  | scenario value =>
      constructor
      · intro hall
        obtain ⟨hsteps, hlast⟩ := List.forall_mem_append.mp hall.steps
        obtain ⟨hexamples, hlast'⟩ := List.forall_mem_append.mp hall.examples
        exact ⟨⟨hall.background, hsteps, hexamples⟩, hlast value (by simp), hlast' value (by simp)⟩
      · rintro ⟨hfront, hsteps, hexamples⟩
        exact ⟨hfront.background,
          List.forall_mem_append.mpr ⟨hfront.steps, List.forall_mem_singleton.mpr hsteps⟩,
          List.forall_mem_append.mpr ⟨hfront.examples, List.forall_mem_singleton.mpr hexamples⟩⟩

end Feature

namespace Reading

open Feature (each_opened)

variable {S : Step → Prop} {E : Examples → Prop}

-- The properties hold of what a line opens, and what a further line adds keeps them.
structure Keeps (S : Step → Prop) (E : Examples → Prop) : Prop where
  step : ∀ (word : StepWord) (role : Role) (text : String) (line : Nat),
    S { keyword := some (word.word ++ " "), role, text := some text, line }
  row : ∀ {text : List Char} {cells : List String} {step step' : Step},
    Row.cells? text = some cells → S step → addToStep cells step = .ok step' → S step'
  docString : ∀ (step : Step) (content : String) (contentType : Option String), S step →
    S { step with argument := some (.docString ⟨some content, contentType⟩) }
  examples : ∀ (name : String) (tags : List Tag) (line : Nat), E { name, tags, line }
  examplesRow : ∀ {text : List Char} {cells : List String} {e e' : Examples},
    Row.cells? text = some cells → E e → addToExamples cells e = .ok e' → E e'

def Each (S : Step → Prop) (E : Examples → Prop) (r : Reading) : Prop :=
  ∀ feature ∈ r.feature, feature.Each S E

variable {n : Nat} {raw : List Char} {r r' : Reading} {line : Line}

theorem LineEffect.each (keeps : Keeps S E) (h : LineEffect n raw r line r') (hr : r.Each S E) :
    r'.Each S E := by
  cases h with
  | blank | comment | tags | fence | examplesText => exact hr
  | language => split <;> exact hr
  | feature => exact forall_mem_some ⟨by simp, by simp, by simp⟩
  | element present opens fits =>
      refine forall_mem_some ((each_opened fits).mpr ⟨hr _ present, ?_⟩)
      cases opens <;> simp [Feature.Element.steps, Feature.Element.examples]
  | @examples heading name front s present opens =>
      obtain ⟨hfront, hsteps, hsets⟩ := (each_opened (front.canOpen_scenario s)).mp (hr _ present)
      have hnew := keeps.examples name r.tags n
      exact forall_mem_some ((each_opened (front.canOpen_scenario _)).mpr
        ⟨hfront, hsteps, List.forall_mem_append.mpr ⟨hsets, List.forall_mem_singleton.mpr hnew⟩⟩)
  | step present fits =>
      obtain ⟨hfront, hsteps, hsets⟩ := (each_opened fits).mp (hr _ present)
      refine forall_mem_some ((each_opened (by simpa)).mpr ⟨hfront, ?_, by simpa using hsets⟩)
      rw [Feature.Element.steps_withSteps, List.forall_mem_append, List.forall_mem_singleton]
      exact ⟨hsteps, keeps.step _ _ _ _⟩
  | stepRow read present fits place examples added =>
      obtain ⟨hfront, hsteps, hsets⟩ := (each_opened (by simpa)).mp (hr _ present)
      refine forall_mem_some ((each_opened (by simpa)).mpr ⟨hfront, ?_, by simpa using hsets⟩)
      rw [Feature.Element.steps_withSteps, List.forall_mem_append, List.forall_mem_singleton]
        at hsteps ⊢
      exact ⟨hsteps.1, keeps.row read hsteps.2 added⟩
  | @examplesRow text cells front s earlier last after read present place bare added =>
      obtain ⟨hfront, hsteps, hsets⟩ := (each_opened (front.canOpen_scenario _)).mp (hr _ present)
      obtain ⟨hearlier, hlast⟩ := List.forall_mem_append.mp hsets
      have hafter := keeps.examplesRow read (List.forall_mem_singleton.mp hlast) added
      exact forall_mem_some ((each_opened (front.canOpen_scenario _)).mpr ⟨hfront, hsteps,
        List.forall_mem_append.mpr ⟨hearlier, List.forall_mem_singleton.mpr hafter⟩⟩)
  | featureText =>
      intro feature hfeature
      obtain ⟨earlier, hearlier, rfl⟩ := Option.map_eq_some_iff.mp hfeature
      have hall := hr earlier hearlier
      exact ⟨hall.background, hall.steps, hall.examples⟩
  | elementText present fits =>
      obtain ⟨hfront, hsteps, hsets⟩ := (each_opened fits).mp (hr _ present)
      exact forall_mem_some ((each_opened (by simpa)).mpr
        ⟨hfront, by simpa using hsteps, by simpa using hsets⟩)

-- What one line does to a reading keeps the properties.
theorem Effect.each (keeps : Keeps S E) (h : Effect n raw r r') (hr : r.Each S E) :
    r'.Each S E := by
  cases h with
  | content => exact hr
  | close inside closing present fits free =>
      obtain ⟨hfront, hsteps, hsets⟩ := (each_opened (by simpa)).mp (hr _ present)
      refine forall_mem_some ((each_opened (by simpa)).mpr ⟨hfront, ?_, by simpa using hsets⟩)
      rw [Feature.Element.steps_withSteps, List.forall_mem_append, List.forall_mem_singleton]
        at hsteps ⊢
      exact ⟨hsteps.1, keeps.docString _ _ _ hsteps.2⟩
  | line outside effect => exact effect.each keeps hr

end Reading

-- Properties that reading keeps hold of the steps and examples of every parsed feature.
theorem Feature.each_of_parse {S : Step → Prop} {E : Examples → Prop} (keeps : Reading.Keeps S E)
    {path text : String} {feature : Feature} (h : parse path text = .ok feature) :
    feature.Each S E := by
  obtain ⟨r, read, hread, hfeature, rfl⟩ := parse_eq_ok h
  let Inv (_ : List (List Char)) (r : Reading) : Prop := r.Each S E
  have hstep : ∀ front raw r r', raw ∈ Text.lines text.toList → Inv front r →
      Reading.Effect (front.length + 1) raw r r' → Inv (front ++ [raw]) r' :=
    fun _ _ _ _ _ hr heffect => heffect.each keeps hr
  have hstart : Inv [] {} := by simp [Inv, Reading.Each]
  have hall := (Reading.invariant_of_readAll hstep hstart hread).1 read hfeature
  exact ⟨hall.background, hall.steps, hall.examples⟩

-- The runner can take what the step hands over.
def Step.IsCallable (step : Step) : Prop :=
  match step.argument with
  | some (.table table) => table.rows ≠ []
  | some (.other _) => False
  | _ => True

-- The columns have names without blanks around them, and each row has a value for each of them.
structure Examples.HasColumns (e : Examples) (columns : List String) : Prop where
  header : e.header = some (columns.map some)
  trimmed : ∀ column ∈ columns, trimmed column = column
  rows : ∀ row ∈ e.rows, ∃ values : List String,
    row = values.map some ∧ values.length = columns.length

def Examples.IsTable (e : Examples) : Prop :=
  (e.header = none ∧ e.rows = []) ∨ ∃ columns, e.HasColumns columns

namespace Reading

theorem isCallable_addToStep {cells : List String} {step step' : Step}
    (h : addToStep cells step = .ok step') : step'.IsCallable := by
  unfold addToStep at h
  split at h
  · cases h
    simp [Step.IsCallable]
  · split at h
    · cases h
      simp [Step.IsCallable]
    · cases h
  · cases h

theorem isTable_addToExamples {text : List Char} {cells : List String} {e e' : Examples}
    (hcells : Row.cells? text = some cells) (he : e.IsTable) (h : addToExamples cells e = .ok e') :
    e'.IsTable := by
  unfold addToExamples at h
  split at h
  · rename_i hheader
    cases h
    have hrows : e.rows = [] := by
      obtain ⟨-, hrows⟩ | ⟨columns, hcolumns⟩ := he
      · exact hrows
      · cases hheader.symm.trans hcolumns.header
    exact .inr ⟨cells, rfl, Row.trimmed_of_mem_cells hcells, by simp [hrows]⟩
  · rename_i header hheader
    obtain ⟨hnone, -⟩ | ⟨columns, hcolumns⟩ := he
    · cases hheader.symm.trans hnone
    · cases hheader.symm.trans hcolumns.header
      rw [List.length_map] at h
      split at h
      · rename_i hlength
        cases h
        refine .inr ⟨columns, hcolumns.header, hcolumns.trimmed, ?_⟩
        exact List.forall_mem_append.mpr ⟨hcolumns.rows, by simpa using ⟨cells, rfl, hlength⟩⟩
      · cases h

theorem keeps_isCallable_isTable : Keeps Step.IsCallable Examples.IsTable where
  step _ _ _ _ := trivial
  row _ _ h := isCallable_addToStep h
  docString _ _ _ _ := trivial
  examples _ _ _ := .inl ⟨rfl, rfl⟩
  examplesRow hcells he h := isTable_addToExamples hcells he h

end Reading

-- Every step of a parsed feature can be called, and all its examples are tables.
theorem Feature.isCallable_isTable_of_parse {path text : String} {feature : Feature}
    (h : parse path text = .ok feature) : feature.Each Step.IsCallable Examples.IsTable :=
  each_of_parse Reading.keeps_isCallable_isTable h

end Rehearsal
