import Rehearsal.Proofs.Feature.Parts
import Rehearsal.Proofs.Feature.Print

namespace Rehearsal

structure DataTable.IsRectangular (table : DataTable) : Prop where
  some_row : table.rows ≠ []
  same_width : ∃ width, ∀ row ∈ table.rows, row.length = width

def Argument.IsWellFormed : Argument → Prop
  | .docString _ => True
  | .table value => value.IsRectangular
  | .other _ => False

-- A step is written with the word of its role, or with a star that takes its role from its place.
structure Step.IsWellFormed (earlier : List Step) (step : Step) : Prop where
  keyword : step.keyword = some (step.role.word ++ " ") ∨
    step.keyword = some "* " ∧ step.role = if earlier = [] then .given else .also
  text : ∃ text, step.text = some text ∧ text ≠ "" ∧ IsName text
  argument : ∀ argument ∈ step.argument, argument.IsWellFormed

def StepsAreWellFormed (earlier : List Step) : List Step → Prop
  | [] => True
  | step :: rest => step.IsWellFormed earlier ∧ StepsAreWellFormed (earlier ++ [step]) rest

structure Examples.IsWellFormed (e : Examples) : Prop where
  name : IsName e.name
  bare : e.header = none → e.rows = []
  width : ∀ header ∈ e.header, ∀ row ∈ e.rows, row.length = header.length

namespace Feature

namespace Element

def name : Element → String
  | .background value => value.name
  | .scenario value => value.name

structure IsWellFormed (e : Element) : Prop where
  name : IsName e.name
  steps : StepsAreWellFormed [] e.steps
  examples : ∀ set ∈ e.examples, set.IsWellFormed

-- The heading comes first, then the steps, then the examples.
def lineNumbers (e : Element) : List Nat :=
  e.line :: (e.steps.map (·.line) ++ e.examples.map (·.line))

end Element

-- The lines of all headings and steps below the title, in the order of the document.
def lineNumbers (feature : Feature) : List Nat := feature.elements.flatMap (·.lineNumbers)

structure IsWellFormed (feature : Feature) : Prop where
  name : IsName feature.name
  elements : ∀ e ∈ feature.elements, e.IsWellFormed
  ordered : feature.lineNumbers.Pairwise (· < ·)

end Feature

theorem stepsAreWellFormed_concat {earlier steps : List Step} {step : Step} :
    StepsAreWellFormed earlier (steps ++ [step]) ↔
      StepsAreWellFormed earlier steps ∧ step.IsWellFormed (earlier ++ steps) := by
  induction steps generalizing earlier with
  | nil => simp [StepsAreWellFormed]
  | cons first rest ih => simp [StepsAreWellFormed, ih, and_assoc]

-- A text that is cut out of a line and trimmed can be a name.
theorem isName_trim {part line : List Char} (h : part <:+: line) (hline : Text.IsSingleLine line) :
    IsName (String.ofList (Text.trim part)) where
  trimmed := by rw [String.toList_ofList, Text.trim_trim]
  single := by
    rw [String.toList_ofList]
    exact Text.isSingleLine_of_infix ((Text.trim_infix part).trans h) hline

namespace Line

variable {line : List Char}

theorem heading?_eq_some {kind : Line} (h : heading? line = some kind) :
    ∃ heading name, kind = .heading heading name ∧ heading.name? line = some name := by
  obtain ⟨heading, -, hread⟩ := List.exists_of_findSome?_eq_some h
  obtain ⟨name, hname, rfl⟩ := Option.map_eq_some_iff.mp hread
  exact ⟨heading, name, rfl, hname⟩

theorem step?_eq_some {kind : Line} (h : step? line = some kind) :
    ∃ word text, kind = .step word text ∧ word.text? line = some text := by
  obtain ⟨word, -, hread⟩ := List.exists_of_findSome?_eq_some h
  obtain ⟨text, htext, rfl⟩ := Option.map_eq_some_iff.mp hread
  exact ⟨word, text, rfl, htext⟩

theorem fence?_eq_some {kind : Line} (h : fence? line = some kind) :
    ∃ mark contentType, kind = .fence mark contentType := by
  obtain ⟨mark, -, hread⟩ := List.exists_of_findSome?_eq_some h
  obtain ⟨rest, -, rfl⟩ := Option.map_eq_some_iff.mp hread
  exact ⟨mark, _, rfl⟩

def isPlain : Line → Bool
  | .heading _ _ => false
  | .step _ _ => false
  | _ => true

-- A line that reads as a heading or as a step has the form of one.
theorem ofTrimmed_cases (line : List Char) :
    (∃ heading name, ofTrimmed line = .heading heading name ∧ heading.name? line = some name) ∨
    (∃ word text, ofTrimmed line = .step word text ∧ word.text? line = some text) ∨
    (ofTrimmed line).isPlain := by
  unfold ofTrimmed
  split
  · exact .inr (.inr rfl)
  · rename_i rest
    cases language? rest <;> exact .inr (.inr rfl)
  · exact .inr (.inr rfl)
  · cases hheading : heading? line with
    | some kind =>
        obtain ⟨heading, name, rfl, hname⟩ := heading?_eq_some hheading
        exact .inl ⟨heading, name, rfl, hname⟩
    | none =>
        cases hstep : step? line with
        | some kind =>
            obtain ⟨word, text, rfl, htext⟩ := step?_eq_some hstep
            exact .inr (.inl ⟨word, text, rfl, htext⟩)
        | none =>
            refine .inr (.inr ?_)
            rw [Option.or_none, Option.getD_none]
            split
            · rfl
            · cases hfence : fence? line with
              | none => rfl
              | some kind =>
                  obtain ⟨mark, contentType, rfl⟩ := fence?_eq_some hfence
                  rfl

theorem name?_of_ofTrimmed {heading : Heading} {name : String}
    (h : ofTrimmed line = .heading heading name) : heading.name? line = some name := by
  obtain ⟨_, _, hline, hname⟩ | ⟨_, _, hline, -⟩ | hplain := ofTrimmed_cases line
  · cases h.symm.trans hline
    exact hname
  · cases h.symm.trans hline
  · simp [h, isPlain] at hplain

theorem text?_of_ofTrimmed {word : StepWord} {text : String}
    (h : ofTrimmed line = .step word text) : word.text? line = some text := by
  obtain ⟨_, _, hline, -⟩ | ⟨_, _, hline, htext⟩ | hplain := ofTrimmed_cases line
  · cases h.symm.trans hline
  · cases h.symm.trans hline
    exact htext
  · simp [h, isPlain] at hplain

theorem isName_of_heading {raw : List Char} (hraw : Text.IsSingleLine raw) {heading : Heading}
    {name : String} (h : ofChars raw = .heading heading name) : IsName name := by
  have hline : Text.IsSingleLine (Text.trim raw) :=
    Text.isSingleLine_of_infix (Text.trim_infix raw) hraw
  obtain ⟨rest, hrest, hname⟩ := Option.bind_eq_some_iff.mp (name?_of_ofTrimmed h)
  rw [List.isPrefixOf?_eq_some_iff_append_eq] at hrest
  split at hname
  · rename_i after hcolon
    cases hname
    have hafter : after <:+ Text.trim raw := by
      have hsuffix : ':' :: after <:+ rest := hcolon ▸ List.dropWhile_suffix Text.isBlank
      exact (List.suffix_cons ':' after).trans (hsuffix.trans ⟨_, hrest⟩)
    exact isName_trim hafter.isInfix hline
  · cases hname

theorem isName_of_step {raw : List Char} (hraw : Text.IsSingleLine raw) {word : StepWord}
    {text : String} (h : ofChars raw = .step word text) : text ≠ "" ∧ IsName text := by
  have hline : Text.IsSingleLine (Text.trim raw) :=
    Text.isSingleLine_of_infix (Text.trim_infix raw) hraw
  obtain ⟨rest, hrest, htext⟩ := Option.bind_eq_some_iff.mp (text?_of_ofTrimmed h)
  rw [List.isPrefixOf?_eq_some_iff_append_eq] at hrest
  split at htext
  · rename_i hblank
    cases htext
    refine ⟨?_, isName_trim (List.IsSuffix.isInfix ⟨_, hrest⟩) hline⟩
    -- The line does not end with a blank, so something is left of it after the word.
    have hne : rest ≠ [] := by
      rintro rfl
      simp at hblank
    have hlast : ∀ c ∈ rest.getLast?, Text.isBlank c = false := by
      have hend := (Text.trim_eq_self_iff.mp (Text.trim_trim raw)).2
      rwa [← hrest, List.getLast?_append_of_ne_nil _ hne] at hend
    have hc := hlast _ (List.getLast?_eq_getLast_of_ne_nil hne)
    have hmem := Text.mem_trim hc (List.getLast_mem hne)
    simpa using List.ne_nil_of_mem hmem
  · cases htext

end Line

namespace Feature

namespace Element

variable {e : Element}

@[simp] theorem name_withSteps (steps : List Step) (e : Element) :
    (e.withSteps steps).name = e.name := by
  cases e <;> rfl

@[simp] theorem name_withDescription (description : String) (e : Element) :
    (e.withDescription description).name = e.name := by
  cases e <;> rfl

theorem IsOpenedBy.isWellFormed {name : String} {tags : List Tag} {line : Nat} {heading : Heading}
    (h : e.IsOpenedBy name tags line heading) (hname : IsName name) : e.IsWellFormed := by
  cases h <;> exact ⟨hname, trivial, by simp [examples]⟩

theorem IsWellFormed.addStep {step : Step} (h : e.IsWellFormed)
    (hstep : step.IsWellFormed e.steps) : (e.withSteps (e.steps ++ [step])).IsWellFormed where
  name := by simpa using h.name
  steps := by
    rw [steps_withSteps, stepsAreWellFormed_concat, List.nil_append]
    exact ⟨h.steps, hstep⟩
  examples := by simpa using h.examples

theorem IsWellFormed.changeStep {earlier : List Step} {last after : Step}
    (h : (e.withSteps (earlier ++ [last])).IsWellFormed)
    (hlast : last.IsWellFormed earlier → after.IsWellFormed earlier) :
    (e.withSteps (earlier ++ [after])).IsWellFormed := by
  obtain ⟨hname, hsteps, hexamples⟩ := h
  rw [steps_withSteps, stepsAreWellFormed_concat, List.nil_append] at hsteps
  refine ⟨by simpa using hname, ?_, by simpa using hexamples⟩
  rw [steps_withSteps, stepsAreWellFormed_concat, List.nil_append]
  exact ⟨hsteps.1, hlast hsteps.2⟩

theorem IsWellFormed.withDescription (h : e.IsWellFormed) (description : String) :
    (e.withDescription description).IsWellFormed where
  name := by simpa using h.name
  steps := by simpa using h.steps
  examples := by simpa using h.examples

theorem IsWellFormed.withExamples {s : Scenario} (h : (Element.scenario s).IsWellFormed)
    {sets : List Examples} (hsets : ∀ set ∈ sets, set.IsWellFormed) :
    (Element.scenario { s with examples := sets }).IsWellFormed :=
  ⟨h.name, h.steps, hsets⟩

end Element

def HasProperParts (feature : Feature) : Prop :=
  IsName feature.name ∧ ∀ e ∈ feature.elements, e.IsWellFormed

theorem hasProperParts_opened {front : Feature} {e : Element} (h : front.CanOpen e) :
    (front.opened e).HasProperParts ↔ front.HasProperParts ∧ e.IsWellFormed := by
  have hname : (front.opened e).name = front.name := by cases e <;> rfl
  rw [HasProperParts, elements_opened h, hname, List.forall_mem_append, List.forall_mem_singleton,
    ← and_assoc, HasProperParts]

end Feature

namespace Reading

open Feature (Element)

theorem isWellFormed_newStep (earlier : List Step) (word : StepWord) {text : String} (line : Nat)
    (htext : text ≠ "" ∧ IsName text) :
    Step.IsWellFormed earlier
      { keyword := some (word.word ++ " "), role := roleOf earlier word, text := some text,
        line } where
  keyword := by
    cases word with
    | role played => exact .inl rfl
    | star => exact .inr ⟨rfl, by simp [roleOf]⟩
  text := ⟨text, rfl, htext⟩
  argument := by simp

theorem isRectangular_add {table : DataTable} {row : List (Option String)}
    (h : table.IsRectangular) (hrow : table.rows.head?.any (·.length = row.length)) :
    (DataTable.mk (table.rows ++ [row])).IsRectangular := by
  obtain ⟨rows⟩ := table
  obtain ⟨hsome, width, hwidth⟩ := h
  refine ⟨by simp, width, List.forall_mem_append.mpr ⟨hwidth, ?_⟩⟩
  obtain ⟨first, rest, rfl⟩ := List.exists_cons_of_ne_nil hsome
  have hlength : first.length = row.length := by simpa using hrow
  rw [List.forall_mem_singleton, ← hlength]
  exact hwidth first List.mem_cons_self

theorem isWellFormed_addToStep {earlier : List Step} {cells : List String} {step after : Step}
    (h : addToStep cells step = .ok after) (hstep : step.IsWellFormed earlier) :
    after.IsWellFormed earlier := by
  unfold addToStep at h
  split at h
  · cases h
    refine ⟨hstep.keyword, hstep.text, ?_⟩
    rintro _ ⟨⟩
    exact ⟨by simp, cells.length, by simp⟩
  · rename_i table htable
    split at h
    · rename_i hwidth
      cases h
      refine ⟨hstep.keyword, hstep.text, ?_⟩
      rintro _ ⟨⟩
      exact isRectangular_add (hstep.argument _ htable) (by simpa using hwidth)
    · cases h
  · cases h

theorem isWellFormed_addToExamples {cells : List String} {e after : Examples}
    (h : addToExamples cells e = .ok after) (he : e.IsWellFormed) : after.IsWellFormed := by
  unfold addToExamples at h
  split at h
  · rename_i hnone
    cases h
    exact ⟨he.name, by simp, by simp [he.bare hnone]⟩
  · rename_i header hheader
    split at h
    · rename_i hlength
      cases h
      refine ⟨he.name, by simp [hheader], ?_⟩
      intro other hother
      have hsame : other = header := Option.some.inj (hother.symm.trans hheader)
      rw [List.forall_mem_append, List.forall_mem_singleton, hsame, List.length_map]
      exact ⟨he.width header hheader, hlength⟩
    · cases h

variable {n : Nat} {raw : List Char} {r r' : Reading}

def HasProperParts (r : Reading) : Prop := ∀ feature ∈ r.feature, feature.HasProperParts

theorem LineEffect.hasProperParts (hraw : Text.IsSingleLine raw)
    (heffect : LineEffect n raw r (Line.ofChars raw) r') (hr : r.HasProperParts) :
    r'.HasProperParts := by
  generalize hline : Line.ofChars raw = line at heffect
  cases heffect with
  | blank | comment | tags | fence | examplesText => exact hr
  | language => split <;> exact hr
  | feature =>
      refine forall_mem_some ⟨Line.isName_of_heading hraw hline, ?_⟩
      simp [Feature.elements]
  | element present opens fits =>
      have hnew := opens.isWellFormed (Line.isName_of_heading hraw hline)
      exact forall_mem_some
        ((Feature.hasProperParts_opened fits).mpr ⟨hr _ present, hnew⟩)
  | @examples heading name front s present opens =>
      obtain ⟨hfront, hs⟩ :=
        (Feature.hasProperParts_opened (front.canOpen_scenario s)).mp (hr _ present)
      have hnew : Examples.IsWellFormed { name, tags := r.tags, line := n } :=
        ⟨Line.isName_of_heading hraw hline, by simp, by simp⟩
      refine forall_mem_some
        ((Feature.hasProperParts_opened (front.canOpen_scenario _)).mpr
          ⟨hfront, hs.withExamples ?_⟩)
      exact List.forall_mem_append.mpr ⟨hs.examples, List.forall_mem_singleton.mpr hnew⟩
  | @step word text front e present fits =>
      obtain ⟨hfront, he⟩ := (Feature.hasProperParts_opened fits).mp (hr _ present)
      have hnew := isWellFormed_newStep e.steps word n (Line.isName_of_step hraw hline)
      exact forall_mem_some
        ((Feature.hasProperParts_opened (by simpa)).mpr ⟨hfront, he.addStep hnew⟩)
  | stepRow read present fits place examples added =>
      obtain ⟨hfront, he⟩ := (Feature.hasProperParts_opened (by simpa)).mp (hr _ present)
      exact forall_mem_some ((Feature.hasProperParts_opened (by simpa)).mpr
        ⟨hfront, he.changeStep (isWellFormed_addToStep added)⟩)
  | @examplesRow text cells front s earlier last after read present place bare added =>
      obtain ⟨hfront, hs⟩ :=
        (Feature.hasProperParts_opened (front.canOpen_scenario _)).mp (hr _ present)
      have hsets := List.forall_mem_append.mp hs.examples
      have hlast := isWellFormed_addToExamples added (List.forall_mem_singleton.mp hsets.2)
      exact forall_mem_some
        ((Feature.hasProperParts_opened (front.canOpen_scenario _)).mpr ⟨hfront, hs.withExamples
          (List.forall_mem_append.mpr ⟨hsets.1, List.forall_mem_singleton.mpr hlast⟩)⟩)
  | featureText =>
      intro feature hfeature
      obtain ⟨earlier, hearlier, rfl⟩ := Option.map_eq_some_iff.mp hfeature
      exact hr earlier hearlier
  | elementText present fits =>
      obtain ⟨hfront, he⟩ := (Feature.hasProperParts_opened fits).mp (hr _ present)
      exact forall_mem_some
        ((Feature.hasProperParts_opened (by simpa)).mpr ⟨hfront, he.withDescription _⟩)

theorem Effect.hasProperParts (hraw : Text.IsSingleLine raw) (heffect : Effect n raw r r')
    (hr : r.HasProperParts) : r'.HasProperParts := by
  cases heffect with
  | content => exact hr
  | close inside closing present fits free =>
      obtain ⟨hfront, he⟩ := (Feature.hasProperParts_opened (by simpa)).mp (hr _ present)
      refine forall_mem_some ((Feature.hasProperParts_opened (by simpa)).mpr
        ⟨hfront, he.changeStep fun hlast => ⟨hlast.keyword, hlast.text, ?_⟩⟩)
      rintro _ ⟨⟩
      exact trivial
  | line outside effect => exact effect.hasProperParts hraw hr

end Reading

namespace Document

def Part.line? : Part → Option Nat
  | .background _ line => some line
  | .scenario _ _ line => some line
  | .step _ _ _ line => some line
  | .examples _ _ _ line => some line
  | _ => none

-- A line stands for at most one part, which keeps its number.
theorem lines_partsOf (before : List (Nat × Line)) (line : Nat × Line) :
    ((partsOf before line).filterMap Part.line?).Sublist [line.1] := by
  obtain ⟨number, line⟩ := line
  cases line with
  | heading heading name => cases heading <;> simp [partsOf, Part.line?]
  | _ => simp [partsOf, Part.line?]

theorem lines_partsAfter (before document : List (Nat × Line)) :
    ((partsAfter before document).filterMap Part.line?).Sublist (document.map (·.1)) := by
  induction document generalizing before with
  | nil => exact .slnil
  | cons line rest ih =>
      rw [partsAfter, List.filterMap_append, List.map_cons, ← List.singleton_append]
      exact (lines_partsOf before line).append (ih (before ++ [line]))

end Document

namespace Feature

theorem line?_rows (owner : Option Nat) (rows : List (List (Option String))) :
    (rows.map fun row => Document.Part.row owner (some row)).filterMap Document.Part.line? = [] := by
  induction rows with
  | nil => rfl
  | cons row rest ih => exact ih

theorem lineNumbers_parts (e : Element) :
    e.parts.filterMap Document.Part.line? = e.lineNumbers := by
  have hopening : e.opening.line? = some e.line := by cases e <;> rfl
  have hstep : ∀ step : Step, (step.parts e.line).filterMap Document.Part.line? = [step.line] :=
    fun step => congrArg (step.line :: ·) (line?_rows _ _)
  have hset : ∀ set : Examples, (set.parts e.line).filterMap Document.Part.line? = [set.line] :=
    fun set => congrArg (set.line :: ·) (line?_rows _ _)
  simp [Element.parts, Element.lineNumbers, hopening, List.filterMap_flatMap, hstep, hset,
    List.map_eq_flatMap]

theorem lineNumbers_eq (feature : Feature) :
    feature.lineNumbers = feature.parts.filterMap Document.Part.line? := by
  rw [lineNumbers, parts, List.filterMap_cons_none rfl, List.filterMap_flatMap]
  simp only [lineNumbers_parts]

-- Headings and steps are numbered in the order of the document.
theorem pairwise_lineNumbers {lines : List (List Char)} {r : Reading} {feature : Feature}
    (h : ({} : Reading).readAll 1 lines = .ok r) (hfeature : r.feature = some feature) :
    feature.lineNumbers.Pairwise (· < ·) := by
  rw [lineNumbers_eq, Reading.parts_readAll h hfeature]
  have hlines := (Document.pairwise_outsideFrom 1 none lines).1
  exact (List.pairwise_map.mpr hlines).sublist (Document.lines_partsAfter [] _)

-- Whatever text is read, the feature is well formed.
theorem isWellFormed_of_parse {path text : String} {feature : Feature}
    (h : parse path text = .ok feature) : feature.IsWellFormed := by
  obtain ⟨r, read, hread, hfeature, rfl⟩ := parse_eq_ok h
  let Inv (_ : List (List Char)) (r : Reading) : Prop := r.HasProperParts
  have hstep : ∀ front raw r r', raw ∈ Text.lines text.toList → Inv front r →
      Reading.Effect (front.length + 1) raw r r' → Inv (front ++ [raw]) r' :=
    fun _ raw _ _ hraw hr heffect =>
      heffect.hasProperParts (Text.isSingleLine_of_mem_lines raw hraw) hr
  have hstart : Inv [] {} := by simp [Inv, Reading.HasProperParts]
  have hparts : r.HasProperParts := (Reading.invariant_of_readAll hstep hstart hread).1
  have hordered : read.lineNumbers.Pairwise (· < ·) := pairwise_lineNumbers hread hfeature
  exact ⟨(hparts read hfeature).1, (hparts read hfeature).2, hordered⟩

def bakeryText : String :=
  "Feature:  Bakery \nBackground:\n* an oven\n* flour\n" ++
  "Scenario Outline: Bread\n\tWhen  baking <loaf>\n| grain | water |\n| rye | 2 |\n" ++
  "Examples: plain\n| loaf |\n| round |\nExamples:\n"

def bakery : Feature :=
  { name := "Bakery"
    background := some
      { steps := [
          { keyword := some "* ", role := .given, text := some "an oven", line := 3 },
          { keyword := some "* ", role := .also, text := some "flour", line := 4 }]
        line := 2 }
    scenarios := [
      { name := "Bread"
        steps := [
          { keyword := some "When ", role := .action, text := some "baking <loaf>"
            argument := some (.table
              ⟨[[some "grain", some "water"], [some "rye", some "2"]]⟩)
            line := 6 }]
        examples := [
          { name := "plain", header := some [some "loaf"], rows := [[some "round"]], line := 9 },
          { line := 12 }]
        line := 5 }] }

theorem isWellFormed_of_parse_bakery :
    parse "" bakeryText = .ok bakery ∧ bakery.IsWellFormed := by
  have hparse : parse "" bakeryText = .ok bakery := by decide +kernel
  exact ⟨hparse, isWellFormed_of_parse hparse⟩

end Feature

end Rehearsal
