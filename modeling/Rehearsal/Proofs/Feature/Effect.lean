import Mathlib.Data.List.Basic
import Rehearsal.Proofs.Feature.Reading

namespace Rehearsal

namespace Heading

def opensScenario : Heading → Bool
  | .outline | .template | .scenario | .example => true
  | _ => false

def opensExamples : Heading → Bool
  | .scenarios | .examples => true
  | _ => false

end Heading

namespace Feature

namespace Element

def examples : Element → List Examples
  | .background _ => []
  | .scenario value => value.examples

@[simp] theorem examples_withSteps (steps : List Step) (e : Element) :
    (e.withSteps steps).examples = e.examples := by
  cases e <;> rfl

@[simp] theorem examples_withDescription (description : String) (e : Element) :
    (e.withDescription description).examples = e.examples := by
  cases e <;> rfl

@[simp] theorem steps_withDescription (description : String) (e : Element) :
    (e.withDescription description).steps = e.steps := by
  cases e <;> rfl

-- The element that a heading opens.
inductive IsOpenedBy (name : String) (tags : List Tag) (line : Nat) : Heading → Element → Prop where
  | background : IsOpenedBy name tags line .background (.background { name, line })
  | scenario {heading : Heading} (opens : heading.opensScenario) :
      IsOpenedBy name tags line heading (.scenario { name, tags, line })

end Element

-- There is one background, and it comes before the scenarios.
def CanOpen (feature : Feature) : Element → Prop
  | .background _ => feature.background = none ∧ feature.scenarios = []
  | .scenario _ => True

theorem canOpen_scenario (feature : Feature) (s : Scenario) : feature.CanOpen (.scenario s) :=
  trivial

@[simp] theorem canOpen_withSteps {feature : Feature} {steps : List Step} {e : Element} :
    feature.CanOpen (e.withSteps steps) ↔ feature.CanOpen e := by
  cases e <;> rfl

@[simp] theorem canOpen_withDescription {feature : Feature} {description : String} {e : Element} :
    feature.CanOpen (e.withDescription description) ↔ feature.CanOpen e := by
  cases e <;> rfl

theorem exists_opened_scenario {feature : Feature} (h : feature.scenarios ≠ []) :
    ∃ (front : Feature) (s : Scenario), feature = front.opened (.scenario s) := by
  obtain ⟨others, last, hlast⟩ := (List.eq_nil_or_concat' feature.scenarios).resolve_left h
  exact ⟨{ feature with scenarios := others }, last, by simp [opened, ← hlast]⟩

end Feature

namespace Reading

open Feature (Element)

-- The place of a reading is there in its feature.
inductive Stands : Place → Option Feature → Prop where
  | start : Stands .outside none
  | feature {feature : Feature} (given : feature.background = none)
      (first : feature.scenarios = []) : Stands .outside (some feature)
  | element {front : Feature} {e : Element} (fits : front.CanOpen e) (steps : e.steps = [])
      (examples : e.examples = []) : Stands .element (some (front.opened e))
  | step {front : Feature} {e : Element} {earlier : List Step} {last : Step}
      (fits : front.CanOpen e) (examples : e.examples = []) :
      Stands .step (some (front.opened (e.withSteps (earlier ++ [last]))))
  | examples {front : Feature} {s : Scenario} {earlier : List Examples} {last : Examples}
      (bare : last.header = none → last.rows = []) :
      Stands .examples (some (front.opened (.scenario { s with examples := earlier ++ [last] })))

-- A doc string is read for a step that has no argument.
structure IsSound (r : Reading) : Prop where
  stands : Stands r.place r.feature
  fence : r.fence.isSome → r.openStep?.any (·.argument.isNone)

-- What a line outside of doc strings does.
inductive LineEffect (n : Nat) (raw : List Char) (r : Reading) : Line → Reading → Prop where
  | blank : LineEffect n raw r .blank r
  | comment : LineEffect n raw r .comment r
  | language {name : String} :
      LineEffect n raw r (.language name)
        (if r.feature.isNone then { r with language := name } else r)
  | tags {tokens : List String} {tags : List Tag} (read : tagsOf n tokens = .ok tags) :
      LineEffect n raw r (.tags tokens) { r with tags := r.tags ++ tags, describing := false }
  | feature {name : String} (first : r.feature = none) :
      LineEffect n raw r (.heading .feature name) { r with
        feature := some { name, tags := r.tags, language := some r.language }
        tags := [], place := .outside, describing := true }
  | element {heading : Heading} {name : String} {feature : Feature} {e : Element}
      (present : r.feature = some feature) (opens : e.IsOpenedBy name r.tags n heading)
      (fits : feature.CanOpen e) :
      LineEffect n raw r (.heading heading name) { r with
        feature := some (feature.opened e), tags := [], place := .element, describing := true }
  | examples {heading : Heading} {name : String} {front : Feature} {s : Scenario}
      (present : r.feature = some (front.opened (.scenario s))) (opens : heading.opensExamples) :
      LineEffect n raw r (.heading heading name) { r with
        feature := some (front.opened (.scenario
          { s with examples := s.examples ++ [{ name, tags := r.tags, line := n }] }))
        tags := [], place := .examples, describing := true }
  | step {word : StepWord} {text : String} {front : Feature} {e : Element}
      (present : r.feature = some (front.opened e)) (fits : front.CanOpen e)
      (examples : e.examples = []) (place : r.place = .element ∨ r.place = .step) :
      LineEffect n raw r (.step word text) { r with
        feature := some (front.opened (e.withSteps (e.steps ++
          [{ keyword := some (word.word ++ " "), role := roleOf e.steps word, text := some text,
             line := n }])))
        place := .step, describing := false }
  | stepRow {text : List Char} {cells : List String} {front : Feature} {e : Element}
      {earlier : List Step} {last after : Step} (read : Row.cells? text = some cells)
      (present : r.feature = some (front.opened (e.withSteps (earlier ++ [last]))))
      (fits : front.CanOpen e) (place : r.place = .step) (examples : e.examples = [])
      (added : addToStep cells last = .ok after) :
      LineEffect n raw r (.row text) { r with
        feature := some (front.opened (e.withSteps (earlier ++ [after]))), describing := false }
  | examplesRow {text : List Char} {cells : List String} {front : Feature} {s : Scenario}
      {earlier : List Examples} {last after : Examples} (read : Row.cells? text = some cells)
      (present : r.feature =
        some (front.opened (.scenario { s with examples := earlier ++ [last] })))
      (place : r.place = .examples) (bare : last.header = none → last.rows = [])
      (added : addToExamples cells last = .ok after) :
      LineEffect n raw r (.row text) { r with
        feature := some (front.opened (.scenario { s with examples := earlier ++ [after] }))
        describing := false }
  | fence {mark : Char} {contentType : Option String}
      (free : r.openStep?.any (·.argument.isNone)) :
      LineEffect n raw r (.fence mark contentType) { r with
        fence := some
          { mark, contentType, start := n, indent := (raw.takeWhile Text.isBlank).length }
        describing := false }
  | featureText {text : String} (place : r.place = .outside) :
      LineEffect n raw r (.text text) { r with feature := r.feature.map (Feature.describe text) }
  | elementText {text : String} {front : Feature} {e : Element}
      (present : r.feature = some (front.opened e)) (fits : front.CanOpen e) :
      LineEffect n raw r (.text text) { r with
        feature := some (front.opened
          (e.withDescription (Feature.extended e.description text))) }
  | examplesText {text : String} : LineEffect n raw r (.text text) r

-- What a line does, be it part of a doc string or not.
inductive Effect (n : Nat) (raw : List Char) (r : Reading) : Reading → Prop where
  | content {fence : Fence} (inside : r.fence = some fence) (going : ¬ fence.isClosedBy raw) :
      Effect n raw r { r with fence := some (fence.push raw) }
  | close {fence : Fence} {front : Feature} {e : Element} {earlier : List Step} {last : Step}
      (inside : r.fence = some fence) (closing : fence.isClosedBy raw)
      (present : r.feature = some (front.opened (e.withSteps (earlier ++ [last]))))
      (fits : front.CanOpen e) (free : last.argument = none) :
      Effect n raw r { r with
        feature := some (front.opened (e.withSteps (earlier ++
          [{ last with argument := some (.docString ⟨some fence.content, fence.contentType⟩) }])))
        fence := none }
  | line {r' : Reading} (outside : r.fence = none)
      (effect : LineEffect n raw r (Line.ofChars raw) r') : Effect n raw r r'

variable {n : Nat} {raw : List Char} {r r' : Reading}

theorem IsSound.of_stands (hs : Stands r.place r.feature) (hf : r.fence = none) : r.IsSound :=
  ⟨hs, by simp [hf]⟩

theorem openStep?_opened {front : Feature} {e : Element} {earlier : List Step} {last : Step}
    (hplace : r.place = .step)
    (hfeature : r.feature = some (front.opened (e.withSteps (earlier ++ [last])))) :
    r.openStep? = some last := by
  simp [openStep?, hplace, hfeature, Feature.currentSteps_opened]

theorem effect_takeHeading {heading : Heading} {name : String} (hf : r.fence = none)
    (h : r.takeHeading n heading name = .ok r') :
    LineEffect n raw r (.heading heading name) r' ∧ r'.IsSound := by
  cases hfeature : r.feature with
  | none =>
      cases heading <;> simp only [takeHeading, hfeature, Except.ok.injEq, reduceCtorEq] at h
      subst h
      exact ⟨.feature hfeature, .of_stands (.feature rfl rfl) hf⟩
  | some feature =>
      have hexamples : heading.opensExamples →
          takeHeading.takeExamples r n heading name feature = .ok r' →
          LineEffect n raw r (.heading heading name) r' ∧ r'.IsSound := by
        intro hopens htake
        unfold takeHeading.takeExamples at htake
        split at htake
        · cases htake
        · rename_i hsome
          obtain ⟨front, s, rfl⟩ := Feature.exists_opened_scenario (by simpa using hsome)
          rw [Feature.updateExamples_opened, Except.ok.injEq] at htake
          subst htake
          exact ⟨.examples hfeature hopens, .of_stands (.examples fun _ => rfl) hf⟩
      have hscenario : heading.opensScenario →
          { r with
            feature := some (feature.opened (.scenario { name, tags := r.tags, line := n }))
            tags := [], place := .element, describing := true } = r' →
          LineEffect n raw r (.heading heading name) r' ∧ r'.IsSound := by
        rintro hopens rfl
        have hfits := feature.canOpen_scenario { name, tags := r.tags, line := n }
        exact ⟨.element hfeature (.scenario hopens) hfits, .of_stands (.element hfits rfl rfl) hf⟩
      cases heading <;> simp only [takeHeading, hfeature, Except.ok.injEq, reduceCtorEq] at h
      case examples | scenarios => exact hexamples rfl h
      case background =>
          split at h
          · cases h
          · rename_i hfirst
            simp only [Bool.or_eq_true, Option.isSome_iff_ne_none, Bool.not_eq_true',
              List.isEmpty_eq_false_iff, not_or, not_not] at hfirst
            cases h
            have hopened : { feature with background := some { name, line := n } } =
                feature.opened (.background { name, line := n }) := by
              simp [Feature.opened, ← hfirst.2]
            rw [hopened]
            exact ⟨.element hfeature .background hfirst, .of_stands (.element hfirst rfl rfl) hf⟩
      all_goals exact hscenario rfl h

theorem effect_takeStep {word : StepWord} {text : String} (hs : Stands r.place r.feature)
    (hf : r.fence = none) (h : r.takeStep n word text = .ok r') :
    LineEffect n raw r (.step word text) r' ∧ r'.IsSound := by
  have hopen : ∀ {front : Feature} {e : Element}, r.feature = some (front.opened e) →
      front.CanOpen e → e.examples = [] → r.place = .element ∨ r.place = .step →
      LineEffect n raw r (.step word text) r' ∧ r'.IsSound := by
    intro front e hfeature hfits hexamples hplace
    have hguard : (decide (r.place = .element) || decide (r.place = .step)) = true := by
      simpa using hplace
    simp only [takeStep, hfeature, hguard, if_true, Feature.updateSteps_opened,
      Feature.currentSteps_opened, Except.ok.injEq] at h
    subst h
    exact ⟨.step hfeature hfits hexamples hplace, .of_stands (.step hfits hexamples) hf⟩
  obtain ⟨language, feature, tags, place, describing, fence⟩ := r
  cases hs with
  | start => cases h
  | feature => simp [takeStep] at h
  | element fits _ examples => exact hopen rfl fits examples (.inl rfl)
  | step fits examples => exact hopen rfl (by simpa) (by simpa) (.inr rfl)
  | examples => simp [takeStep] at h

theorem isSome_header_addToExamples {cells : List String} {e after : Examples}
    (h : addToExamples cells e = .ok after) : after.header.isSome := by
  unfold addToExamples at h
  split at h
  · cases h
    rfl
  · rename_i header hheader
    split at h
    · cases h
      rw [hheader, Option.isSome_some]
    · cases h

theorem effect_takeRow {text : List Char} (hs : Stands r.place r.feature) (hf : r.fence = none)
    (h : r.takeRow text = .ok r') : LineEffect n raw r (.row text) r' ∧ r'.IsSound := by
  obtain ⟨language, feature, tags, place, describing, fence⟩ := r
  cases hcells : Row.cells? text with
  | none => simp [takeRow, hcells] at h
  | some cells =>
      cases hs with
      | start => simp [takeRow, hcells] at h
      | feature => simp [takeRow, hcells] at h
      | element => simp [takeRow, hcells] at h
      | step fits examples =>
          simp only [takeRow, hcells, Feature.currentSteps_opened, Element.steps_withSteps,
            List.getLast?_concat] at h
          obtain ⟨after, hadd, rfl⟩ := eq_ok_of_map h
          simp only [Feature.updateSteps_opened, Element.steps_withSteps,
            updateLast_append_singleton, Element.withSteps_withSteps]
          exact ⟨.stepRow hcells rfl fits rfl examples hadd, .of_stands (.step fits examples) hf⟩
      | examples bare =>
          simp only [takeRow, hcells, Feature.currentExamples?_opened, List.getLast?_concat] at h
          obtain ⟨after, hadd, rfl⟩ := eq_ok_of_map h
          simp only [Feature.updateExamples_opened, updateLast_append_singleton]
          have hheader := isSome_header_addToExamples hadd
          exact ⟨.examplesRow hcells rfl rfl bare hadd,
            .of_stands (.examples fun hnone => by simp [hnone] at hheader) hf⟩

theorem effect_takeText {text : String} (hs : Stands r.place r.feature) (hf : r.fence = none)
    (h : r.takeText text = .ok r') : LineEffect n raw r (.text text) r' ∧ r'.IsSound := by
  obtain ⟨language, feature, tags, place, describing, fence⟩ := r
  unfold takeText at h
  split at h
  · cases h
  · cases hs with
    | start =>
        cases h
        exact ⟨.featureText rfl, .of_stands .start hf⟩
    | feature given first =>
        cases h
        exact ⟨.featureText rfl, .of_stands (.feature given first) hf⟩
    | element fits steps examples =>
        simp only [Option.map_some, Feature.describeElement_opened, Except.ok.injEq] at h
        subst h
        exact ⟨.elementText rfl fits,
          .of_stands (.element (by simpa) (by simpa) (by simpa)) hf⟩
    | step fits examples =>
        simp only [Option.map_some, Feature.describeElement_opened, Except.ok.injEq] at h
        subst h
        refine ⟨.elementText rfl (by simpa), .of_stands ?_ hf⟩
        rw [← Element.withSteps_withDescription]
        exact .step (by simpa) (by simpa)
    | examples bare =>
        cases h
        exact ⟨.examplesText, .of_stands (.examples bare) hf⟩

theorem effect_takeLine {line : Line} (hr : r.IsSound) (hf : r.fence = none)
    (h : r.takeLine n raw line = .ok r') : LineEffect n raw r line r' ∧ r'.IsSound := by
  cases line with
  | blank =>
      cases h
      exact ⟨.blank, hr⟩
  | comment =>
      cases h
      exact ⟨.comment, hr⟩
  | language name =>
      cases h
      refine ⟨.language, ?_⟩
      split
      · exact ⟨hr.stands, hr.fence⟩
      · exact hr
  | tags tokens =>
      obtain ⟨tags, hread, rfl⟩ := eq_ok_of_map h
      exact ⟨.tags hread, .of_stands hr.stands hf⟩
  | heading heading name => exact effect_takeHeading hf h
  | step word text => exact effect_takeStep hr.stands hf h
  | row text => exact effect_takeRow hr.stands hf h
  | fence mark contentType =>
      simp only [takeLine, openFence] at h
      split at h
      · rename_i hfree
        cases h
        exact ⟨.fence hfree, hr.stands, fun _ => hfree⟩
      · cases h
  | text text => exact effect_takeText hr.stands hf h

-- Every line that is read does one of these things, and leaves the reading sound.
theorem effect_next (hr : r.IsSound) (h : r.next n raw = .ok r') : Effect n raw r r' ∧ r'.IsSound := by
  obtain ⟨hs, hfree⟩ := hr
  cases hfence : r.fence with
  | none =>
      simp only [next, hfence] at h
      obtain ⟨heffect, hr'⟩ := effect_takeLine ⟨hs, hfree⟩ hfence h
      exact ⟨.line hfence heffect, hr'⟩
  | some fence =>
      have hfree := hfree (by simp [hfence])
      simp only [next, hfence, Except.ok.injEq] at h
      by_cases hclosed : fence.isClosedBy raw
      · rw [if_pos hclosed] at h
        subst h
        obtain ⟨language, feature, tags, place, describing, _⟩ := r
        cases hs with
        | step fits examples =>
            rw [openStep?_opened rfl rfl, Option.any_some, Option.isNone_iff_eq_none] at hfree
            simp only [closeFence, Option.map_some, Feature.updateSteps_opened,
              Element.steps_withSteps, updateLast_append_singleton, Element.withSteps_withSteps]
            exact ⟨.close hfence hclosed rfl fits hfree, .of_stands (.step fits examples) rfl⟩
        | _ => cases hfree
      · rw [if_neg hclosed] at h
        subst h
        exact ⟨.content hfence hclosed, hs, fun _ => hfree⟩

-- What holds before some lines and is kept by every one of them holds after the last. The property
-- may depend on the lines that were read.
theorem invariant_of_readAll_from {Inv : List (List Char) → Reading → Prop}
    {front lines : List (List Char)} {r₀ : Reading}
    (hstep : ∀ seen raw r r', raw ∈ lines → Inv seen r → Effect (seen.length + 1) raw r r' →
      Inv (seen ++ [raw]) r')
    (hstart : Inv front r₀) (hsound : r₀.IsSound)
    (h : r₀.readAll (front.length + 1) lines = .ok r) : Inv (front ++ lines) r ∧ r.IsSound := by
  induction lines generalizing front r₀ with
  | nil =>
      cases h
      rw [List.append_nil]
      exact ⟨hstart, hsound⟩
  | cons raw rest ih =>
      rw [readAll] at h
      cases hnext : r₀.next (front.length + 1) raw with
      | error fault => simp [hnext] at h
      | ok r₁ =>
          simp only [hnext] at h
          obtain ⟨heffect, hsound₁⟩ := effect_next hsound hnext
          rw [← List.singleton_append, ← List.append_assoc]
          apply ih
            (fun seen other r r' hother => hstep seen other r r' (List.mem_cons_of_mem raw hother))
            (hstep front raw r₀ r₁ List.mem_cons_self hstart heffect) hsound₁
          simpa using h

theorem invariant_of_readAll {Inv : List (List Char) → Reading → Prop} {lines : List (List Char)}
    (hstep : ∀ front raw r r', raw ∈ lines → Inv front r → Effect (front.length + 1) raw r r' →
      Inv (front ++ [raw]) r')
    (hstart : Inv [] {}) (h : ({} : Reading).readAll 1 lines = .ok r) : Inv lines r ∧ r.IsSound :=
  @invariant_of_readAll_from r Inv [] lines {} hstep hstart (.of_stands .start rfl) h

end Reading

theorem Feature.parse_eq_ok_iff {path text : String} {feature : Feature} :
    parse path text = .ok feature ↔
      ∃ (r : Reading) (read : Feature), ({} : Reading).readAll 1 (Text.lines text.toList) = .ok r ∧
        r.fence = none ∧ r.feature = some read ∧ feature = { read with path } := by
  unfold parse ofLines
  cases ({} : Reading).readAll 1 (Text.lines text.toList) with
  | error fault => simp [Except.bind]
  | ok r => cases hfence : r.fence <;> cases hfeature : r.feature <;>
      simp [Except.bind, Reading.finish, hfence, hfeature, eq_comm]

theorem Feature.parse_eq_ok {path text : String} {feature : Feature}
    (h : parse path text = .ok feature) :
    ∃ (r : Reading) (read : Feature), ({} : Reading).readAll 1 (Text.lines text.toList) = .ok r ∧
      r.feature = some read ∧ feature = { read with path } := by
  obtain ⟨r, read, hread, -, hfeature, hpath⟩ := parse_eq_ok_iff.mp h
  exact ⟨r, read, hread, hfeature, hpath⟩

end Rehearsal
