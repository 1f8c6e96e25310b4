import Mathlib.Data.List.DropRight
import Rehearsal.Proofs.Feature.Document

namespace Rehearsal

-- A heading, a step or a row of a document. What a part belongs to is known by its line.
inductive Document.Part where
  | feature (name : String) (tags : List Tag)
  | background (name : String) (line : Nat)
  | scenario (name : String) (tags : List Tag) (line : Nat)
  | step (element : Option Nat) (keyword text : Option String) (line : Nat)
  | examples (scenario : Option Nat) (name : String) (tags : List Tag) (line : Nat)
  | row (owner : Option Nat) (cells : Option (List (Option String)))
  deriving DecidableEq, Repr

def Argument.rows : Argument → List (List (Option String))
  | .table value => value.rows
  | _ => []

-- A step of the element at some line, followed by the rows of its table.
def Step.parts (element : Nat) (step : Step) : List Document.Part :=
  .step (some element) step.keyword step.text step.line ::
    (step.argument.toList.flatMap (·.rows)).map fun row => .row (some step.line) (some row)

def Examples.parts (scenario : Nat) (e : Examples) : List Document.Part :=
  .examples (some scenario) e.name e.tags e.line ::
    (e.header.toList ++ e.rows).map fun row => .row (some e.line) (some row)

namespace Feature

namespace Element

def line : Element → Nat
  | .background value => value.line
  | .scenario value => value.line

def scenarioLine? : Element → Option Nat
  | .background _ => none
  | .scenario value => some value.line

def opening : Element → Document.Part
  | .background value => .background value.name value.line
  | .scenario value => .scenario value.name value.tags value.line

def parts (e : Element) : List Document.Part :=
  e.opening :: (e.steps.flatMap (·.parts e.line) ++ e.examples.flatMap (·.parts e.line))

@[simp] theorem line_withSteps (steps : List Step) (e : Element) :
    (e.withSteps steps).line = e.line := by
  cases e <;> rfl

@[simp] theorem line_withDescription (description : String) (e : Element) :
    (e.withDescription description).line = e.line := by
  cases e <;> rfl

@[simp] theorem scenarioLine?_withSteps (steps : List Step) (e : Element) :
    (e.withSteps steps).scenarioLine? = e.scenarioLine? := by
  cases e <;> rfl

@[simp] theorem scenarioLine?_withDescription (description : String) (e : Element) :
    (e.withDescription description).scenarioLine? = e.scenarioLine? := by
  cases e <;> rfl

@[simp] theorem opening_withSteps (steps : List Step) (e : Element) :
    (e.withSteps steps).opening = e.opening := by
  cases e <;> rfl

@[simp] theorem opening_withDescription (description : String) (e : Element) :
    (e.withDescription description).opening = e.opening := by
  cases e <;> rfl

end Element

-- The background if there is one, then the scenarios.
def elements (feature : Feature) : List Element :=
  feature.background.toList.map .background ++ feature.scenarios.map .scenario

theorem elements_opened {front : Feature} {e : Element} (h : front.CanOpen e) :
    (front.opened e).elements = front.elements ++ [e] := by
  cases e with
  | background value =>
      obtain ⟨hgiven, hfirst⟩ := h
      simp [elements, opened, hgiven, hfirst]
  | scenario value => simp [elements, opened]

-- Everything that a feature holds, as it follows each other in a document.
def parts (feature : Feature) : List Document.Part :=
  .feature feature.name feature.tags :: feature.elements.flatMap (·.parts)

end Feature

namespace Line

def isHeading (p : Heading → Bool) : Line → Bool
  | .heading kind _ => p kind
  | _ => false

def isStep : Line → Bool
  | .step _ _ => true
  | _ => false

end Line

def Heading.opensElement (heading : Heading) : Bool :=
  heading = .background || heading.opensScenario

namespace Document

-- The number of the last line of some kind.
def nearest (p : Line → Bool) (before : List (Nat × Line)) : Option Nat :=
  (before.reverse.find? fun line => p line.2).map (·.1)

-- The tokens of a tag line without their marks, up to a comment.
def tagsOn : Nat × Line → List Tag
  | (number, .tags tokens) =>
      (tokens.takeWhile fun token => token.toList.head? != some '#').map fun token =>
        ⟨String.ofList (token.toList.drop 1), number⟩
  | _ => []

-- The tags on all lines since the last heading.
def tagsBefore (before : List (Nat × Line)) : List Tag :=
  (before.rtakeWhile fun line => !line.2.isHeading fun _ => true).flatMap tagsOn

-- The last examples in the element that is open.
def nearestExamples (before : List (Nat × Line)) : Option Nat :=
  nearest (·.isHeading Heading.opensExamples)
    (before.rtakeWhile fun line => !line.2.isHeading Heading.opensElement)

-- What a line stands for, given the lines before it. Every heading takes the tags since the one
-- before it, and everything else belongs to what stands nearest before it.
def partsOf (before : List (Nat × Line)) : Nat × Line → List Document.Part
  | (number, .heading heading name) =>
      match heading with
      | .feature => [.feature name (tagsBefore before)]
      | .background => [.background name number]
      | .examples | .scenarios =>
          [.examples (nearest (·.isHeading Heading.opensScenario) before) name (tagsBefore before)
            number]
      | _ => [.scenario name (tagsBefore before) number]
  | (number, .step word text) =>
      [.step (nearest (·.isHeading Heading.opensElement) before) (some (word.word ++ " "))
        (some text) number]
  | (_, .row text) =>
      [.row ((nearestExamples before).or (nearest Line.isStep before))
        ((Row.cells? text).map (·.map some))]
  | _ => []

def partsAfter (before : List (Nat × Line)) : List (Nat × Line) → List Document.Part
  | [] => []
  | line :: rest => partsOf before line ++ partsAfter (before ++ [line]) rest

def parts (document : List (Nat × Line)) : List Document.Part := partsAfter [] document

-- What the lines after a document depend on.
structure View where
  parts : List Document.Part := []
  tags : List Tag := []
  element : Option Nat := none
  scenario : Option Nat := none
  examples : Option Nat := none
  step : Option Nat := none

def view (document : List (Nat × Line)) : View :=
  { parts := parts document
    tags := tagsBefore document
    element := nearest (·.isHeading Heading.opensElement) document
    scenario := nearest (·.isHeading Heading.opensScenario) document
    examples := nearestExamples document
    step := nearest Line.isStep document }

-- How a view changes with a line.
def View.after (v : View) : Nat × Line → View
  | (number, .heading heading name) =>
      match heading with
      | .feature => { v with parts := v.parts ++ [.feature name v.tags], tags := [] }
      | .background =>
          { v with
            parts := v.parts ++ [.background name number]
            tags := [], element := some number, examples := none }
      | .examples | .scenarios =>
          { v with
            parts := v.parts ++ [.examples v.scenario name v.tags number]
            tags := [], examples := some number }
      | _ =>
          { v with
            parts := v.parts ++ [.scenario name v.tags number]
            tags := [], element := some number, scenario := some number, examples := none }
  | (number, .step word text) =>
      { v with
        parts := v.parts ++ [.step v.element (some (word.word ++ " ")) (some text) number]
        step := some number }
  | (_, .row text) =>
      { v with
        parts := v.parts ++ [.row (v.examples.or v.step) ((Row.cells? text).map (·.map some))] }
  | (number, .tags tokens) => { v with tags := v.tags ++ tagsOn (number, .tags tokens) }
  | _ => v

theorem partsAfter_append (before front back : List (Nat × Line)) :
    partsAfter before (front ++ back) =
      partsAfter before front ++ partsAfter (before ++ front) back := by
  induction front generalizing before with
  | nil => simp [partsAfter]
  | cons line rest ih => simp [partsAfter, ih]

theorem parts_concat (document : List (Nat × Line)) (line : Nat × Line) :
    parts (document ++ [line]) = parts document ++ partsOf document line := by
  simp [parts, partsAfter_append, partsAfter]

theorem nearest_concat (p : Line → Bool) (document : List (Nat × Line)) (line : Nat × Line) :
    nearest p (document ++ [line]) = if p line.2 then some line.1 else nearest p document := by
  rw [nearest, List.reverse_concat, List.find?_cons]
  cases p line.2 <;> rfl

theorem tagsBefore_concat (document : List (Nat × Line)) (line : Nat × Line) :
    tagsBefore (document ++ [line]) =
      if line.2.isHeading fun _ => true then [] else tagsBefore document ++ tagsOn line := by
  rw [tagsBefore, List.rtakeWhile_concat]
  cases line.2.isHeading fun _ => true <;> simp [tagsBefore]

theorem nearestExamples_concat (document : List (Nat × Line)) (line : Nat × Line) :
    nearestExamples (document ++ [line]) =
      if line.2.isHeading Heading.opensElement then none
      else if line.2.isHeading Heading.opensExamples then some line.1
      else nearestExamples document := by
  rw [nearestExamples, List.rtakeWhile_concat]
  cases line.2.isHeading Heading.opensElement with
  | true => rfl
  | false => simp [nearest_concat, nearestExamples]

theorem view_concat (document : List (Nat × Line)) (line : Nat × Line) :
    view (document ++ [line]) = (view document).after line := by
  obtain ⟨number, line⟩ := line
  simp only [view, parts_concat, nearest_concat, tagsBefore_concat, nearestExamples_concat]
  cases line with
  | heading heading name =>
      cases heading <;>
        simp [View.after, partsOf, Line.isHeading, Line.isStep, Heading.opensElement,
          Heading.opensScenario, Heading.opensExamples]
  | _ => simp [View.after, partsOf, Line.isHeading, Line.isStep, tagsOn]

end Document

namespace Feature

-- What is seen of a feature by the lines that follow.
def view (feature : Feature) (tags : List Tag) : Document.View :=
  { parts := feature.parts
    tags
    element := feature.elements.getLast?.map (·.line)
    scenario := feature.scenarios.getLast?.map (·.line)
    examples := (feature.elements.getLast?.bind (·.examples.getLast?)).map (·.line)
    step := (feature.elements.flatMap (·.steps)).getLast?.map (·.line) }

theorem view_opened {front : Feature} {e : Element} (h : front.CanOpen e) (tags : List Tag) :
    (front.opened e).view tags =
      { parts := front.parts ++ e.parts
        tags
        element := some e.line
        scenario := e.scenarioLine?
        examples := e.examples.getLast?.map (·.line)
        step := (front.elements.flatMap (·.steps) ++ e.steps).getLast?.map (·.line) } := by
  have hparts : (front.opened e).parts = front.parts ++ e.parts := by
    rw [parts, elements_opened h, parts]
    cases e <;> simp [opened]
  have hscenario : (front.opened e).scenarios.getLast?.map (·.line) = e.scenarioLine? := by
    cases e <;> simp [opened, Element.scenarioLine?]
  simp [view, hparts, hscenario, elements_opened h]

end Feature

namespace Reading

open Feature (Element)
open Document (tagsOn)

def view (r : Reading) : Document.View :=
  match r.feature with
  | some feature => feature.view r.tags
  | none => { tags := r.tags }

theorem tagsOf_eq_tagsOn {n : Nat} {tokens : List String} {tags : List Tag}
    (h : tagsOf n tokens = .ok tags) : tags = tagsOn (n, .tags tokens) := by
  induction tokens generalizing tags with
  | nil =>
      cases h
      rfl
  | cons token rest ih =>
      rw [tagsOf] at h
      split at h
      · rename_i hcomment
        cases h
        simp [tagsOn, hcomment]
      · rename_i c name htag
        obtain ⟨others, hothers, rfl⟩ := eq_ok_of_map h
        rw [ih hothers]
        simp [tagsOn, htag]
      · cases h

theorem parts_addToStep {cells : List String} {step after : Step}
    (h : addToStep cells step = .ok after) (element : Nat) :
    after.line = step.line ∧
      after.parts element = step.parts element ++ [.row (some step.line) (some (cells.map some))] := by
  unfold addToStep at h
  split at h
  · rename_i hnone
    cases h
    simp [Step.parts, hnone, Argument.rows]
  · rename_i table htable
    split at h
    · cases h
      simp [Step.parts, htable, Argument.rows]
    · cases h
  · cases h

theorem parts_addToExamples {cells : List String} {e after : Examples}
    (hbare : e.header = none → e.rows = []) (h : addToExamples cells e = .ok after)
    (scenario : Nat) :
    after.line = e.line ∧
      after.parts scenario = e.parts scenario ++ [.row (some e.line) (some (cells.map some))] := by
  unfold addToExamples at h
  split at h
  · rename_i hnone
    cases h
    simp [Examples.parts, hnone, hbare hnone]
  · split at h
    · cases h
      simp [Examples.parts]
    · cases h

variable {n : Nat} {raw : List Char} {r r' : Reading} {line : Line}

theorem view_of_feature {feature : Feature} (h : r.feature = some feature) :
    r.view = feature.view r.tags := by
  rw [view, h]

-- Reading a line changes what is seen of the feature as it changes what is seen of the document.
theorem LineEffect.view_eq (h : LineEffect n raw r line r') :
    r'.view = r.view.after (n, line) := by
  cases h with
  | blank | comment | examplesText | fence => rfl
  | language =>
      split <;> rfl
  | tags read =>
      rw [tagsOf_eq_tagsOn read]
      unfold view
      cases r.feature <;> rfl
  | feature first => simp [view, first, Document.View.after, Feature.view, Feature.parts,
      Feature.elements]
  | @element heading name feature e present opens fits =>
      rw [view_of_feature present, view_of_feature rfl, Feature.view_opened fits]
      cases opens with
      | background =>
          simp [Document.View.after, Feature.view, Element.parts, Element.opening, Element.steps,
            Element.examples, Element.line, Element.scenarioLine?, fits.2]
      | scenario hopens =>
          cases heading <;> cases hopens <;>
            simp [Document.View.after, Feature.view, Element.parts, Element.opening,
              Element.steps, Element.examples, Element.line, Element.scenarioLine?]
  | @examples heading name front s present opens =>
      rw [view_of_feature present, view_of_feature rfl,
        Feature.view_opened (front.canOpen_scenario _),
        Feature.view_opened (front.canOpen_scenario s)]
      cases heading <;> cases opens <;>
        simp [Document.View.after, Element.parts, Element.opening, Element.steps,
          Element.examples, Element.line, Element.scenarioLine?, Examples.parts]
  | step present fits examples =>
      rw [view_of_feature present, view_of_feature rfl, Feature.view_opened fits,
        Feature.view_opened (by simpa)]
      simp [Document.View.after, Element.parts, examples, Step.parts]
  | @stepRow text cells front e earlier last after read present fits place examples added =>
      obtain ⟨hline, hparts⟩ := parts_addToStep added e.line
      rw [view_of_feature present, view_of_feature rfl, Feature.view_opened (by simpa),
        Feature.view_opened (by simpa)]
      simp [Document.View.after, Element.parts, examples, read, hline, hparts]
  | @examplesRow text cells front s earlier last after read present place bare added =>
      obtain ⟨hline, hparts⟩ := parts_addToExamples bare added s.line
      rw [view_of_feature present, view_of_feature rfl,
        Feature.view_opened (front.canOpen_scenario _),
        Feature.view_opened (front.canOpen_scenario _)]
      simp [Document.View.after, Element.parts, Element.opening, Element.steps,
        Element.examples, Element.line, Element.scenarioLine?, read, hline, hparts]
  | featureText place =>
      unfold view
      cases r.feature <;> rfl
  | elementText present fits =>
      rw [view_of_feature present, view_of_feature rfl, Feature.view_opened fits,
        Feature.view_opened (by simpa)]
      simp [Document.View.after, Element.parts]

theorem Effect.view_eq (h : Effect n raw r r') :
    r'.view = if r.fence = none then r.view.after (n, Line.ofChars raw) else r.view := by
  cases h with
  | content inside => simp [inside, view]
  | close inside closing present fits free =>
      rw [view_of_feature present, view_of_feature rfl, Feature.view_opened (by simpa),
        Feature.view_opened (by simpa)]
      simp [inside, Element.parts, Step.parts, free, Argument.rows]
  | line outside effect => rw [if_pos outside, effect.view_eq]

-- What was read of a document so far is what there is to see of it, and a doc string is open in
-- both or in none.
theorem view_readAll {lines : List (List Char)} (h : ({} : Reading).readAll 1 lines = .ok r) :
    r.fence.map (·.mark) = Document.openFence lines ∧
      r.view = Document.view (Document.outside lines) := by
  let Inv (front : List (List Char)) (r : Reading) : Prop :=
    r.fence.map (·.mark) = Document.openFence front ∧
      r.view = Document.view (Document.outside front)
  have hstep : ∀ front raw r r', raw ∈ lines → Inv front r →
      Effect (front.length + 1) raw r r' → Inv (front ++ [raw]) r' := by
    rintro front raw r r' - ⟨hfence, hview⟩ heffect
    have hsame : Document.openFence front = none ↔ r.fence = none := by
      rw [← hfence, Option.map_eq_none_iff]
    refine ⟨by rw [heffect.fence_eq, hfence, Document.openFence_concat], ?_⟩
    rw [heffect.view_eq, hview, Document.outside_concat]
    by_cases hnone : r.fence = none
    · rw [if_pos hnone, if_pos (hsame.mpr hnone), Document.view_concat]
    · rw [if_neg hnone, if_neg (mt hsame.mp hnone), List.append_nil]
  exact (invariant_of_readAll hstep ⟨rfl, rfl⟩ h).1

theorem parts_readAll {lines : List (List Char)} {feature : Feature}
    (h : ({} : Reading).readAll 1 lines = .ok r) (hfeature : r.feature = some feature) :
    feature.parts = Document.parts (Document.outside lines) := by
  have hview := (view_readAll h).2
  rw [view_of_feature hfeature] at hview
  exact congrArg Document.View.parts hview

end Reading

namespace Feature

-- A feature holds every heading, step and row of its document once, in the order of the document,
-- where the nearest lines before it say that it belongs, and the tags of each heading are those
-- on the lines since the heading before it.
theorem parts_of_parse {path text : String} {feature : Feature}
    (h : parse path text = .ok feature) :
    feature.parts = Document.parts (Document.outside (Text.lines text.toList)) := by
  obtain ⟨r, read, hread, hfeature, rfl⟩ := parse_eq_ok h
  have hparts : { read with path }.parts = read.parts := rfl
  rw [hparts, Reading.parts_readAll hread hfeature]

def walkText : String :=
  "@city\nFeature: Walk\nBackground:\nGiven a map\n\"\"\"\nScenario: drawn\n\"\"\"\n" ++
  "@slow #later\nScenario Outline: Stroll\n@left\nWhen going <way>\n|from|\n|home|\n" ++
  "@far\nExamples:\n|way|\n|north|\n"

def walk : Feature :=
  { name := "Walk"
    tags := [⟨"city", 1⟩]
    background := some
      { steps := [
          { keyword := some "Given ", role := .given, text := some "a map"
            argument := some (.docString ⟨some "Scenario: drawn", none⟩), line := 4 }]
        line := 3 }
    scenarios := [
      { name := "Stroll"
        tags := [⟨"slow", 8⟩]
        steps := [
          { keyword := some "When ", role := .action, text := some "going <way>"
            argument := some (.table ⟨[[some "from"], [some "home"]]⟩), line := 11 }]
        examples := [
          { tags := [⟨"left", 10⟩, ⟨"far", 14⟩], header := some [some "way"]
            rows := [[some "north"]], line := 15 }]
        line := 9 }] }

-- The heading in the doc string opens nothing, and a tag between two headings waits for the second.
theorem parts_of_parse_walk :
    parse "" walkText = .ok walk ∧
    walk.parts = Document.parts (Document.outside (Text.lines walkText.toList)) := by
  have hparse : parse "" walkText = .ok walk := by decide +kernel
  exact ⟨hparse, parts_of_parse hparse⟩

end Feature

end Rehearsal
