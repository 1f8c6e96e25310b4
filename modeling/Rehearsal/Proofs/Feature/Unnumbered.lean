import Rehearsal.Proofs.Feature.RoundTrip

namespace Rehearsal

theorem map_updateLast {α β : Type} {u : α → β} {f : α → α} {g : β → β}
    (h : ∀ a, u (f a) = g (u a)) (as : List α) :
    (updateLast f as).map u = updateLast g (as.map u) := by
  induction as using List.reverseRecOn with
  | nil => rfl
  | append_singleton front last _ => simp [h]

namespace Feature

variable (feature : Feature)

@[simp] theorem isEmpty_scenarios_unnumbered :
    feature.unnumbered.scenarios.isEmpty = feature.scenarios.isEmpty := by
  simp [unnumbered]

@[simp] theorem isSome_background_unnumbered :
    feature.unnumbered.background.isSome = feature.background.isSome := by
  simp [unnumbered]

@[simp] theorem currentSteps_unnumbered :
    feature.unnumbered.currentSteps = feature.currentSteps.map Step.unnumbered := by
  simp only [currentSteps, unnumbered, List.getLast?_map]
  cases feature.scenarios.getLast? with
  | some scenario => rfl
  | none => cases feature.background <;> rfl

@[simp] theorem currentExamples?_unnumbered :
    feature.unnumbered.currentExamples? = feature.currentExamples?.map Examples.unnumbered := by
  simp only [currentExamples?, unnumbered, List.getLast?_map]
  cases feature.scenarios.getLast? with
  | some scenario => simp [Scenario.unnumbered]
  | none => rfl

-- A change of the steps that does not look at their lines.
theorem unnumbered_updateSteps {f g : List Step → List Step}
    (h : ∀ steps, (f steps).map Step.unnumbered = g (steps.map Step.unnumbered)) :
    (feature.updateSteps f).unnumbered = feature.unnumbered.updateSteps g := by
  unfold updateSteps
  rw [isEmpty_scenarios_unnumbered]
  split
  · simp only [unnumbered, Option.map_map]
    congr 2
    funext background
    simp [Background.unnumbered, h]
  · simp only [unnumbered]
    congr 1
    exact map_updateLast (fun scenario => by simp [Scenario.unnumbered, h]) _

theorem unnumbered_updateExamples {f g : List Examples → List Examples}
    (h : ∀ sets, (f sets).map Examples.unnumbered = g (sets.map Examples.unnumbered)) :
    (feature.updateExamples f).unnumbered = feature.unnumbered.updateExamples g := by
  simp only [updateExamples, unnumbered]
  congr 1
  exact map_updateLast (fun scenario => by simp [Scenario.unnumbered, h]) _

theorem unnumbered_addStep (step : Step) :
    (feature.updateSteps (· ++ [step])).unnumbered =
      feature.unnumbered.updateSteps (· ++ [step.unnumbered]) :=
  feature.unnumbered_updateSteps fun _ => List.map_append

theorem unnumbered_addExamples (e : Examples) :
    (feature.updateExamples (· ++ [e])).unnumbered =
      feature.unnumbered.updateExamples (· ++ [e.unnumbered]) :=
  feature.unnumbered_updateExamples fun _ => List.map_append

theorem unnumbered_changeStep {f g : Step → Step}
    (h : ∀ step, (f step).unnumbered = g step.unnumbered) :
    (feature.updateSteps (updateLast f)).unnumbered =
      feature.unnumbered.updateSteps (updateLast g) :=
  feature.unnumbered_updateSteps fun steps => map_updateLast h steps

theorem unnumbered_changeExamples {f g : Examples → Examples}
    (h : ∀ e, (f e).unnumbered = g e.unnumbered) :
    (feature.updateExamples (updateLast f)).unnumbered =
      feature.unnumbered.updateExamples (updateLast g) :=
  feature.unnumbered_updateExamples fun sets => map_updateLast h sets

theorem unnumbered_describe (line : String) :
    (feature.describe line).unnumbered = feature.unnumbered.describe line := rfl

theorem unnumbered_describeElement (line : String) :
    (feature.describeElement line).unnumbered = feature.unnumbered.describeElement line := by
  unfold describeElement
  rw [isEmpty_scenarios_unnumbered]
  split
  · simp only [unnumbered, Option.map_map]
    rfl
  · simp only [unnumbered]
    congr 1
    exact map_updateLast (fun scenario => by simp [Scenario.unnumbered]) _

end Feature

def Fence.unnumbered (fence : Fence) : Fence := { fence with start := 0 }

namespace Reading

-- A reading without the lines where things stand.
def unnumbered (r : Reading) : Reading :=
  { r with
    feature := r.feature.map Feature.unnumbered
    tags := r.tags.map Tag.unnumbered
    fence := r.fence.map Fence.unnumbered }

theorem tagsOf_unnumbered (n : Nat) (tokens : List String) :
    tagsOf 0 tokens = (tagsOf n tokens).map (·.map Tag.unnumbered) := by
  induction tokens with
  | nil => rfl
  | cons token rest ih =>
      rw [tagsOf, tagsOf]
      split
      · rfl
      · rw [ih]
        cases tagsOf n rest <;> rfl
      · rfl

theorem addToStep_unnumbered (cells : List String) (step : Step) :
    addToStep cells step.unnumbered = (addToStep cells step).map Step.unnumbered := by
  unfold addToStep Step.unnumbered
  dsimp only
  split
  · rfl
  · split <;> rfl
  · rfl

theorem addToExamples_unnumbered (cells : List String) (e : Examples) :
    addToExamples cells e.unnumbered = (addToExamples cells e).map Examples.unnumbered := by
  unfold addToExamples Examples.unnumbered
  dsimp only
  split
  · rfl
  · split <;> rfl

theorem roleOf_unnumbered (steps : List Step) (word : StepWord) :
    roleOf (steps.map Step.unnumbered) word = roleOf steps word := by
  cases word <;> simp [roleOf]

variable (r : Reading) (n : Nat)

theorem takeHeading_unnumbered (heading : Heading) (name : String) :
    r.unnumbered.takeHeading 0 heading name = (r.takeHeading n heading name).map unnumbered := by
  cases hfeature : r.feature with
  | none =>
      cases heading <;>
        simp [takeHeading, unnumbered, hfeature, Except.map, Feature.unnumbered]
  | some feature =>
      have hexamples : takeHeading.takeExamples r.unnumbered 0 heading name feature.unnumbered =
          (takeHeading.takeExamples r n heading name feature).map unnumbered := by
        unfold takeHeading.takeExamples
        rw [Feature.isEmpty_scenarios_unnumbered]
        split
        · rfl
        · simp only [Except.map, unnumbered, Option.map_some]
          rw [Feature.unnumbered_addExamples]
          rfl
      have hsome : r.unnumbered.feature = some feature.unnumbered := by
        rw [unnumbered, hfeature, Option.map_some]
      cases heading <;> simp only [takeHeading, hfeature, hsome]
      case examples | scenarios => exact hexamples
      case feature => rfl
      case background =>
        rw [Feature.isSome_background_unnumbered, Feature.isEmpty_scenarios_unnumbered]
        split <;> rfl
      all_goals simp [Except.map, unnumbered, Feature.unnumbered, Scenario.unnumbered]

theorem takeStep_unnumbered (word : StepWord) (text : String) :
    r.unnumbered.takeStep 0 word text = (r.takeStep n word text).map unnumbered := by
  cases hfeature : r.feature with
  | none => simp [takeStep, unnumbered, hfeature, Except.map]
  | some feature =>
      have hsome : r.unnumbered.feature = some feature.unnumbered := by
        rw [unnumbered, hfeature, Option.map_some]
      simp only [takeStep, hfeature, hsome, Feature.currentSteps_unnumbered, roleOf_unnumbered]
      have hplace : r.unnumbered.place = r.place := rfl
      rw [hplace]
      split
      · simp only [Except.map, unnumbered, Option.map_some]
        rw [Feature.unnumbered_addStep]
        rfl
      · rfl

theorem takeRow_unnumbered (text : List Char) :
    r.unnumbered.takeRow text = (r.takeRow text).map unnumbered := by
  cases hcells : Row.cells? text with
  | none => simp [takeRow, hcells, Except.map]
  | some cells =>
      obtain ⟨language, feature, tags, place, describing, fence⟩ := r
      cases feature with
      | none => simp [takeRow, unnumbered, hcells, Except.map]
      | some feature =>
          simp only [takeRow, unnumbered, hcells, Option.map_some,
            Feature.currentExamples?_unnumbered, Feature.currentSteps_unnumbered,
            List.getLast?_map]
          cases place with
          | outside | element => rfl
          | examples =>
              cases feature.currentExamples? with
              | none => rfl
              | some e =>
                  simp only [Option.map_some, addToExamples_unnumbered]
                  cases addToExamples cells e with
                  | error fault => rfl
                  | ok after =>
                      have hset : (feature.updateExamples (updateLast fun _ => after)).unnumbered =
                          feature.unnumbered.updateExamples (updateLast fun _ => after.unnumbered) :=
                        feature.unnumbered_changeExamples fun _ => rfl
                      simp only [Except.map, unnumbered, Option.map_some, hset]
          | step =>
              cases feature.currentSteps.getLast? with
              | none => rfl
              | some step =>
                  simp only [Option.map_some, addToStep_unnumbered]
                  cases addToStep cells step with
                  | error fault => rfl
                  | ok after =>
                      have hset : (feature.updateSteps (updateLast fun _ => after)).unnumbered =
                          feature.unnumbered.updateSteps (updateLast fun _ => after.unnumbered) :=
                        feature.unnumbered_changeStep fun _ => rfl
                      simp only [Except.map, unnumbered, Option.map_some, hset]

theorem openStep?_unnumbered : r.unnumbered.openStep? = r.openStep?.map Step.unnumbered := by
  obtain ⟨language, feature, tags, place, describing, fence⟩ := r
  unfold openStep?
  by_cases hplace : place = .step
  · cases feature <;> simp [unnumbered, hplace]
  · simp [unnumbered, hplace]

theorem openFence_unnumbered (raw : List Char) (mark : Char) (contentType : Option String) :
    r.unnumbered.openFence 0 raw mark contentType =
      (r.openFence n raw mark contentType).map unnumbered := by
  have hfree : r.unnumbered.openStep?.any (·.argument.isNone) =
      r.openStep?.any (·.argument.isNone) := by
    rw [openStep?_unnumbered]
    cases r.openStep? <;> rfl
  unfold openFence
  rw [hfree]
  split <;> rfl

theorem closeFence_unnumbered (fence : Fence) :
    r.unnumbered.closeFence fence.unnumbered = (r.closeFence fence).unnumbered := by
  simp only [closeFence, unnumbered, Option.map_map]
  congr 2
  funext feature
  symm
  apply feature.unnumbered_changeStep
  intro step
  rfl

theorem takeText_unnumbered (text : String) :
    r.unnumbered.takeText text = (r.takeText text).map unnumbered := by
  obtain ⟨language, feature, tags, place, describing, fence⟩ := r
  unfold takeText
  cases describing with
  | false => rfl
  | true =>
      cases feature with
      | none => cases place <;> rfl
      | some feature =>
          cases place <;>
            simp [unnumbered, Except.map, Feature.unnumbered_describeElement,
              Feature.unnumbered_describe]

-- What a line does to a reading does not depend on the numbers of lines.
theorem next_unnumbered (raw : List Char) :
    r.unnumbered.next 0 raw = (r.next n raw).map unnumbered := by
  cases hfence : r.fence with
  | some fence =>
      have hopen : r.unnumbered.fence = some fence.unnumbered := by
        rw [unnumbered, hfence, Option.map_some]
      have hclosed : fence.unnumbered.isClosedBy raw = fence.isClosedBy raw := rfl
      simp only [next, hfence, hopen, hclosed, closeFence_unnumbered]
      split <;> rfl
  | none =>
      have hopen : r.unnumbered.fence = none := by rw [unnumbered, hfence, Option.map_none]
      simp only [next, hfence, hopen]
      cases Line.ofChars raw with
      | blank | comment => rfl
      | language name =>
          obtain ⟨language, feature, tags, place, describing, fence⟩ := r
          cases feature <;> rfl
      | tags tokens =>
          simp only [takeLine, tagsOf_unnumbered n tokens]
          cases tagsOf n tokens with
          | error fault => rfl
          | ok tags => simp [Except.map, unnumbered]
      | heading heading name => exact r.takeHeading_unnumbered n heading name
      | step word text => exact r.takeStep_unnumbered n word text
      | row text => exact r.takeRow_unnumbered text
      | fence mark contentType => exact r.openFence_unnumbered n raw mark contentType
      | text text => exact r.takeText_unnumbered text

end Reading

end Rehearsal
