import Rehearsal.Proofs.Feature.StepReading

namespace Rehearsal

namespace Reading

open Layout (numberedTags numberedAll)

variable {layout : Layout} {n : Nat} {language : String} {feature : Feature}

-- Parts that are read one by one, each after those before it.
theorem reads_all {α : Type} {linesOf : α → List (List Char)} {number : Nat → α → α}
    (State : List α → Reading → Prop) {parts : List α}
    (h : ∀ part ∈ parts, ∀ n front,
      Reads n (State front) (linesOf part) (State (front ++ [number n part])))
    (front : List α) :
    Reads n (State front) (parts.flatMap linesOf)
      (State (front ++ numberedAll linesOf number n parts)) := by
  induction parts generalizing n front with
  | nil =>
      rw [numberedAll, List.append_nil]
      exact .nil fun r hr => hr
  | cons part rest ih =>
      rw [List.forall_mem_cons] at h
      have hrest := @ih (n + (linesOf part).length) h.2 (front ++ [number n part])
      rw [List.append_assoc] at hrest
      exact (h.1 n front).append hrest

-- Rows belong to the last examples of the last scenario.
structure AtExamples (language : String) (feature : Feature) (s : Scenario) (r : Reading) :
    Prop where
  holds : Holds language (some (feature.opened (.scenario s))) [] r
  place : r.place = .examples

variable {s : Scenario} {sets : List Examples} {set : Examples}

theorem reads_examplesHeading {name : String} (h : IsName name) (tags : List Tag) (level : Nat) :
    Reads n (Holds language (some (feature.opened (.scenario s))) tags)
      [layout.indented level (Layout.headingLine .examples name)]
      (AtExamples language feature
        { s with examples := s.examples ++ [{ name, tags, line := n }] }) := by
  refine .line ((Line.ofChars_indented ..).trans (Line.ofChars_headingLine _ h)) fun r hr =>
    ⟨hr.fence, { r with
      feature := some (feature.opened (.scenario
        { s with examples := s.examples ++ [{ name, tags, line := n }] }))
      tags := [], place := .examples, describing := true }, ?_, ?_⟩
  · have hsome : (feature.opened (.scenario s)).scenarios.isEmpty = false := by
      simp [Feature.opened]
    simp [takeLine, takeHeading, takeHeading.takeExamples, hr.feature, hr.tags, hsome,
      Feature.updateExamples_opened]
  · exact ⟨⟨hr.language, rfl, rfl, hr.fence⟩, rfl⟩

theorem reads_examplesRow {row : List (Option String)} (hrow : ∀ cell ∈ row, IsCell cell)
    {after : Examples} (hadd : addToExamples (row.map (·.getD "")) set = .ok after) (level : Nat) :
    Reads n (AtExamples language feature { s with examples := sets ++ [set] })
      [layout.indented level (Layout.rowLine row)]
      (AtExamples language feature { s with examples := sets ++ [after] }) := by
  refine .line ((Line.ofChars_indented ..).trans (Line.ofChars_rowLine row)) fun r hr =>
    ⟨hr.holds.fence, { r with
      feature := some (feature.opened (.scenario { s with examples := sets ++ [after] }))
      describing := false }, ?_, ?_⟩
  · have hlast : (feature.opened (.scenario { s with examples := sets ++ [set] })).currentExamples? =
        some set := by
      simp [Feature.currentExamples?_opened]
    simp only [takeLine, takeRow, cells?_rowLine hrow, hr.holds.feature, hr.place, hlast, hadd,
      Except.map, Feature.updateExamples_opened, updateLast_append_singleton]
  · exact ⟨⟨hr.holds.language, rfl, hr.holds.tags, hr.holds.fence⟩, hr.place⟩

theorem reads_moreExamplesRows {header : List (Option String)} {rows : List (List (Option String))}
    (hset : set.header = some header) (hrows : ∀ row ∈ rows, row.length = header.length)
    (hcells : ∀ row ∈ rows, ∀ cell ∈ row, IsCell cell) (level : Nat) :
    Reads n (AtExamples language feature { s with examples := sets ++ [set] })
      (layout.rowLines level rows)
      (AtExamples language feature
        { s with examples := sets ++ [{ set with rows := set.rows ++ rows }] }) := by
  induction rows generalizing n set with
  | nil =>
      rw [List.append_nil]
      exact .nil fun r hr => hr
  | cons row rest ih =>
      rw [List.forall_mem_cons] at hrows hcells
      have hadd : addToExamples (row.map (·.getD "")) set =
          .ok { set with rows := set.rows ++ [row] } := by
        simp [addToExamples, hset, hrows.1, map_some_getD hcells.1]
      have hrest := @ih (n + 1) { set with rows := set.rows ++ [row] } hset hrows.2 hcells.2
      rw [List.append_assoc, List.singleton_append] at hrest
      exact .cons (reads_examplesRow hcells.1 hadd level) hrest

theorem reads_examplesRows
    (hshape : (set.header = none ∧ set.rows = []) ∨
      ∃ header, set.header = some header ∧ ∀ row ∈ set.rows, row.length = header.length)
    (hcells : ∀ row ∈ set.header.toList ++ set.rows, ∀ cell ∈ row, IsCell cell) (level : Nat) :
    Reads n
      (AtExamples language feature
        { s with examples := sets ++ [{ set with header := none, rows := [] }] })
      (layout.rowLines level (set.header.toList ++ set.rows))
      (AtExamples language feature { s with examples := sets ++ [set] }) := by
  obtain ⟨name, tags, header, rows, line⟩ := set
  obtain ⟨rfl, rfl⟩ | ⟨header, rfl, hrows⟩ := hshape
  · exact .nil fun r hr => hr
  · simp only [Option.toList_some, List.singleton_append, List.forall_mem_cons] at hcells
    have hadd : addToExamples (header.map (·.getD "")) ⟨name, tags, none, [], line⟩ =
        .ok ⟨name, tags, some header, [], line⟩ := by
      simp [addToExamples, map_some_getD hcells.1]
    exact .cons (reads_examplesRow hcells.1 hadd level)
      (reads_moreExamplesRows rfl hrows hcells.2 level)

theorem reads_examples (h : set.IsPrintable) :
    Reads n (Holds language (some (feature.opened (.scenario { s with examples := sets }))) [])
      (layout.examplesLines set)
      (Holds language (some (feature.opened
        (.scenario { s with examples := sets ++ [layout.numberedExamples n set] }))) []) := by
  have hrows := @reads_examplesRows layout (n + (layout.tagLines 2 set.tags).length + 1) language
    feature s sets (layout.numberedExamples n set) h.shape h.cells 3
  exact (reads_tags h.tags 2 _).append
    ((reads_examplesHeading h.name _ 2).cons (hrows.weaken fun _ hr => hr.holds))

theorem reads_scenarioHeading {name : String} (h : IsName name) {heading : Heading}
    (hheading : heading = .scenario ∨ heading = .outline) (tags : List Tag) (level : Nat) :
    Reads n (Holds language (some feature) tags)
      [layout.indented level (Layout.headingLine heading name)]
      (Describes .element language (feature.opened (.scenario { name, tags, line := n }))) := by
  refine .line ((Line.ofChars_indented ..).trans (Line.ofChars_headingLine _ h)) fun r hr =>
    ⟨hr.fence, { r with
      feature := some (feature.opened (.scenario { name, tags, line := n }))
      tags := [], place := .element, describing := true }, ?_, ?_⟩
  · obtain rfl | rfl := hheading <;>
      simp [takeLine, takeHeading, hr.feature, hr.tags, Feature.opened]
  · exact ⟨⟨hr.language, rfl, rfl, hr.fence⟩, rfl, rfl⟩

-- The description and the steps of an element that was just opened.
theorem reads_element (e : Feature.Element) {description : String} {steps : List Step}
    (hdescription : IsDescription description) (hsteps : StepsArePrintable layout [] steps) :
    Reads n
      (Describes .element language (feature.opened ((e.withDescription "").withSteps [])))
      (layout.descriptionLines 2 description ++ steps.flatMap layout.stepLines)
      (Inside language feature ((e.withDescription description).withSteps
        (layout.numberedSteps (n + (layout.descriptionLines 2 description).length) steps))) := by
  rw [Feature.Element.withSteps_withDescription]
  refine ((reads_elementDescription (e.withSteps []) hdescription 2).weaken fun r hr => ?_).append
    (reads_steps (e.withDescription description) hsteps rfl)
  rw [← Feature.Element.withSteps_withDescription] at hr
  exact hr.inside

theorem reads_scenario {scenario : Scenario} (h : scenario.IsPrintable layout) :
    Reads n (Holds language (some feature) []) (layout.scenarioLines scenario)
      (Holds language (some (feature.opened (.scenario (layout.numberedScenario n scenario)))) []) := by
  have hheading : (if scenario.isOutline then Heading.outline else .scenario) = .scenario ∨
      (if scenario.isOutline then Heading.outline else .scenario) = .outline := by
    split_ifs <;> simp
  let opened : Scenario :=
    { name := scenario.name
      tags := numberedTags n scenario.tags
      line := n + (layout.tagLines 1 scenario.tags).length }
  refine (reads_tags h.tags 1 _).append ((reads_scenarioHeading h.name hheading _ 1).cons
    (((reads_element (.scenario opened) h.description h.steps).weaken fun _ hr => hr.holds).append
      ?_))
  exact reads_all
    (fun sets => Holds language (some (feature.opened
      (.scenario { layout.numberedScenario n scenario with examples := sets }))) [])
    (fun set hset _ _ => reads_examples (h.examples set hset)) []

theorem reads_backgroundHeading {name : String} (h : IsName name)
    (hnone : feature.background = none) (hfirst : feature.scenarios = []) (level : Nat) :
    Reads n (Holds language (some feature) [])
      [layout.indented level (Layout.headingLine .background name)]
      (Describes .element language (feature.opened (.background { name, line := n }))) := by
  refine .line ((Line.ofChars_indented ..).trans (Line.ofChars_headingLine _ h)) fun r hr =>
    ⟨hr.fence, { r with
      feature := some (feature.opened (.background { name, line := n }))
      tags := [], place := .element, describing := true }, ?_, ?_⟩
  · simp [takeLine, takeHeading, hr.feature, hnone, hfirst, Feature.opened]
  · exact ⟨⟨hr.language, rfl, rfl, hr.fence⟩, rfl, rfl⟩

theorem reads_background {background : Background} (h : background.IsPrintable layout)
    (hnone : feature.background = none) (hfirst : feature.scenarios = []) :
    Reads n (Holds language (some feature) []) (layout.backgroundLines background)
      (Holds language
        (some (feature.opened (.background (layout.numberedBackground n background)))) []) :=
  (reads_backgroundHeading h.name hnone hfirst 1).cons
    ((reads_element (.background { name := background.name, line := n }) h.description
      h.steps).weaken fun _ hr => hr.holds)

theorem reads_featureHeading {name : String} (h : IsName name) (tags : List Tag) :
    Reads n (Holds language none tags) [Layout.headingLine .feature name]
      (Describes .outside language { name, tags, language := some language }) := by
  refine .line (Line.ofChars_headingLine _ h) fun r hr =>
    ⟨hr.fence, { r with
      feature := some { name, tags, language := some language }
      tags := [], place := .outside, describing := true }, ?_, ?_⟩
  · simp [takeLine, takeHeading, hr.feature, hr.tags, hr.language]
  · exact ⟨⟨hr.language, rfl, rfl, hr.fence⟩, rfl, rfl⟩

theorem reads_languageLine (h : Text.IsToken language.toList) :
    Reads n (· = {}) [Layout.languageLine language] (Holds language none []) := by
  refine .line (Line.ofChars_languageLine h) fun r hr => ⟨by rw [hr], { r with language }, ?_, ?_⟩
  · simp [takeLine, hr]
  · subst hr
    exact ⟨rfl, rfl, rfl, rfl⟩

theorem reads_backgrounds (feature : Feature) {background : Option Background}
    (h : ∀ value ∈ background, value.IsPrintable layout) (hnone : feature.background = none)
    (hfirst : feature.scenarios = []) :
    Reads n (Holds language (some feature) []) (background.toList.flatMap layout.backgroundLines)
      (Holds language
        (some { feature with background := background.map (layout.numberedBackground n) }) []) := by
  cases background with
  | none =>
      refine .nil fun r hr => ?_
      rwa [Option.map_none, ← hnone]
  | some value =>
      have hread := @reads_background layout n language feature value (h value rfl) hnone hfirst
      rw [Feature.opened, ← hfirst] at hread
      simpa using hread

theorem reads_feature (h : feature.IsPrintable layout) :
    ∃ language, Reads 1 (· = {}) (layout.featureLines feature)
      (Holds language (some { layout.numbered feature with path := "" }) []) := by
  obtain ⟨name, description, scenarios, tags, background, language, path⟩ := feature
  obtain ⟨hname, htags, ⟨language, rfl, hlanguage⟩, ⟨description, rfl, hdescription⟩, hbackground,
    hscenarios⟩ := h
  let described : Feature :=
    { name, tags := numberedTags 2 tags, language := some language, description := some description }
  refine ⟨language, (reads_languageLine hlanguage).cons ((reads_tags htags 0 none).append
    ((reads_featureHeading hname _).cons
      ((((reads_featureDescription described hdescription 1).weaken fun _ hr => hr.holds).append
        (reads_backgrounds described hbackground rfl rfl)).append ?_)))⟩
  exact reads_all
    (fun front => Holds language (some { layout.numbered
      ⟨name, some description, scenarios, tags, background, some language, path⟩ with
        scenarios := front, path := "" }) [])
    (fun scenario hscenario _ _ => reads_scenario (hscenarios scenario hscenario)) []

end Reading

theorem Layout.parse_print_eq {layout : Layout} {feature : Feature}
    (h : feature.IsPrintable layout) (path : String) :
    Feature.parse path (layout.print feature) = .ok { layout.numbered feature with path } := by
  obtain ⟨language, hreads⟩ := Reading.reads_feature h
  obtain ⟨r, hread, hr⟩ := hreads {} rfl
  have hfinish : r.finish = .ok { layout.numbered feature with path := "" } := by
    simp [Reading.finish, hr.fence, hr.feature]
  have hlines : Feature.ofLines (layout.featureLines feature) =
      .ok { layout.numbered feature with path := "" } := by
    rw [Feature.ofLines, hread]
    exact hfinish
  simp [Feature.parse, lines_print h, hlines]

def Tag.unnumbered (tag : Tag) : Tag := { tag with line := 0 }

def Step.unnumbered (step : Step) : Step := { step with line := 0 }

def Examples.unnumbered (examples : Examples) : Examples :=
  { examples with tags := examples.tags.map Tag.unnumbered, line := 0 }

def Background.unnumbered (background : Background) : Background :=
  { background with steps := background.steps.map Step.unnumbered, line := 0 }

def Scenario.unnumbered (scenario : Scenario) : Scenario :=
  { scenario with
    tags := scenario.tags.map Tag.unnumbered
    steps := scenario.steps.map Step.unnumbered
    examples := scenario.examples.map Examples.unnumbered
    line := 0 }

-- A feature without the lines where its parts stand.
def Feature.unnumbered (feature : Feature) : Feature :=
  { feature with
    tags := feature.tags.map Tag.unnumbered
    background := feature.background.map Background.unnumbered
    scenarios := feature.scenarios.map Scenario.unnumbered }

namespace Layout

theorem map_numberedAll {α β : Type} {linesOf : α → List (List Char)} {number : Nat → α → α}
    {f : α → β} (h : ∀ n part, f (number n part) = f part) (n : Nat) (parts : List α) :
    (numberedAll linesOf number n parts).map f = parts.map f := by
  induction parts generalizing n with
  | nil => rfl
  | cons part rest ih => rw [numberedAll, List.map_cons, h, ih, List.map_cons]

theorem map_numberedTags (n : Nat) (tags : List Tag) :
    (numberedTags n tags).map Tag.unnumbered = tags.map Tag.unnumbered := by
  rw [numberedTags, List.map_map]
  rfl

variable (layout : Layout)

theorem map_numberedSteps (n : Nat) (steps : List Step) :
    (layout.numberedSteps n steps).map Step.unnumbered = steps.map Step.unnumbered := by
  rw [numberedSteps, map_numberedAll]
  exact fun _ _ => rfl

theorem unnumbered_numberedExamples (n : Nat) (examples : Examples) :
    (layout.numberedExamples n examples).unnumbered = examples.unnumbered := by
  simp only [Examples.unnumbered, numberedExamples, map_numberedTags]

theorem unnumbered_numberedBackground (n : Nat) (background : Background) :
    (layout.numberedBackground n background).unnumbered = background.unnumbered := by
  simp only [Background.unnumbered, numberedBackground, map_numberedSteps]

theorem unnumbered_numberedScenario (n : Nat) (scenario : Scenario) :
    (layout.numberedScenario n scenario).unnumbered = scenario.unnumbered := by
  simp only [Scenario.unnumbered, numberedScenario, map_numberedTags, map_numberedSteps,
    map_numberedAll layout.unnumbered_numberedExamples]

theorem unnumbered_numbered (feature : Feature) :
    (layout.numbered feature).unnumbered = feature.unnumbered := by
  simp only [Feature.unnumbered, numbered, map_numberedTags, Option.map_map,
    map_numberedAll layout.unnumbered_numberedScenario]
  congr 2
  exact funext fun background => layout.unnumbered_numberedBackground _ background

-- A document gives back the feature that it was printed from, up to the numbers of lines.
theorem parse_print {layout : Layout} {feature : Feature} (h : feature.IsPrintable layout)
    (path : String) :
    (Feature.parse path (layout.print feature)).map Feature.unnumbered =
      .ok { feature.unnumbered with path } := by
  calc (Feature.parse path (layout.print feature)).map Feature.unnumbered
      = .ok { (layout.numbered feature).unnumbered with path } := by rw [parse_print_eq h]; rfl
    _ = .ok { feature.unnumbered with path } := by rw [unnumbered_numbered]

def basket : Feature :=
  { name := "Basket"
    tags := [{ name := "shop" }]
    description := some "Goods\nto buy"
    background := some
      { steps := [
          { keyword := some "* ", role := .given, text := some "prices"
            argument := some (.table ⟨[[some "item", some "a|b"], [some "", some "1\n2"]]⟩) }] }
    scenarios := [
      { name := "Pay <n>"
        tags := [{ name := "Retry:2" }]
        steps := [
          { keyword := some "When ", role := .action, text := some "paying <n>" },
          { keyword := some "* ", role := .also, text := some "a receipt"
            argument := some (.docString ⟨some "\"\"\"\n  total", some "text"⟩) }]
        examples := [{ header := some [some "n"], rows := [[some "1"], [some "2"]] }] }] }

theorem parse_print_basket :
    basket.IsPrintable {} ∧
    (Feature.parse "" (({} : Layout).print basket)).map Feature.unnumbered =
      .ok { basket.unnumbered with path := "" } := by
  have h : basket.IsPrintable {} := by decide
  exact ⟨h, parse_print h ""⟩

end Layout

end Rehearsal
