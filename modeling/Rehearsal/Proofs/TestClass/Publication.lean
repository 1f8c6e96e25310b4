import Rehearsal.Proofs.TestClass.Steps

namespace Rehearsal.TestClass

open Code Outline

-- A test carries a title. Methods that tests call, or that frame them, carry none.
def titled (methods : List Method) : List Method := methods.filter (·.description.isSome)

theorem titled_append (front back : List Method) :
    titled (front ++ back) = titled front ++ titled back := List.filter_append ..

-- The test of one row: it is named and titled by the variant, and hands over the row.
structure IsRowTest (scenario : Scenario) (set : Examples × Option String) (variant : String)
    (row : List (Option String)) (test : Method) : Prop where
  name : test.name = variantMethodName scenario set.2 variant
  title : test.description = some (scenario.name ++ ": " ++ variant)
  call : test.statements =
    [invokeThis (methodName scenario)
      (row.map textOrNull ++ [tagArray (set.1.tags.map (·.name))])]

-- The tests of one set of examples, row by row.
def TestsRows (scenario : Scenario) (set : Examples × Option String) (tests : List Method) : Prop :=
  ∃ names, namesOf set.1 = .ok names ∧ names.length = set.1.rows.length ∧
    List.Forall₂ (fun entry test => IsRowTest scenario set entry.1 entry.2 test)
      (names.zip set.1.rows) tests

-- The methods of a scenario, and those of them that are its tests.
inductive Stages (kind : Kind) (feature : Feature) (scenario : Scenario) :
    List Method → List Method → Prop where
  | plain {test : Method}
      (single : scenario.isOutline = false)
      (once : directiveFor kind feature scenario = none)
      (name : test.name = methodName scenario)
      (title : test.description = some scenario.name) :
      Stages kind feature scenario [test] [test]
  | retried {outer inner : Method} {d : Retry.Directive}
      (single : scenario.isOutline = false)
      (again : directiveFor kind feature scenario = some d)
      (name : outer.name = methodName scenario)
      (title : outer.description = some scenario.name)
      (innerName : inner.name = methodName scenario ++ "Internal")
      (untitled : inner.description = none) :
      Stages kind feature scenario [outer, inner] [outer]
  | outline {template : Method} {tests : List (List Method)}
      (several : scenario.isOutline)
      (name : template.name = methodName scenario)
      (untitled : template.description = none)
      (rows : List.Forall₂ (TestsRows scenario)
        (scenario.examples.zip (setIdentifiers scenario.examples)) tests) :
      Stages kind feature scenario (template :: tests.flatten) tests.flatten

theorem IsVariants.testsRows {kind : Kind} {scenario : Scenario} {set : Examples × Option String}
    {methods : List Method} (h : IsVariants kind scenario set methods) :
    TestsRows scenario set methods := by
  obtain ⟨names, hnames, rfl⟩ := h
  refine ⟨names, hnames, length_namesOf hnames, ?_⟩
  rw [List.forall₂_map_right_iff, List.forall₂_same]
  exact fun _ _ => ⟨rfl, rfl, rfl⟩

theorem TestsRows.length_eq {scenario : Scenario} {set : Examples × Option String}
    {tests : List Method} (h : TestsRows scenario set tests) :
    tests.length = set.1.rows.length := by
  obtain ⟨names, -, hlength, hrows⟩ := h
  rw [← hrows.length_eq, List.length_zip, hlength, Nat.min_self]

-- All tests for rows are titled, so nothing of them is left out.
theorem titled_variants {kind : Kind} {scenario : Scenario}
    {sets : List (Examples × Option String)} {variants : List (List Method)}
    (h : List.Forall₂ (IsVariants kind scenario) sets variants) :
    titled variants.flatten = variants.flatten := by
  apply List.filter_eq_self.mpr
  intro variant hvariant
  obtain ⟨examples, set, name, row, rfl⟩ := eq_variantMethod_of_mem h variant hvariant
  rfl

theorem IsPortion.stages {kind : Kind} {feature : Feature} {before : Nat} {scenario : Scenario}
    {p : Portion} (h : IsPortion kind feature before scenario p) :
    Stages kind feature scenario p.methods (titled p.methods) ∧
      p.tests = (titled p.methods).map (·.name) := by
  cases h with
  | plain single once _ => exact ⟨.plain single once rfl rfl, rfl⟩
  | retried single again _ _ => exact ⟨.retried single again rfl rfl rfl rfl, rfl⟩
  | @outline _ known statements variants several _ _ _ rows =>
      have htitled : titled (template known scenario statements :: variants.flatten) =
          variants.flatten := titled_variants rows
      rw [htitled]
      exact ⟨.outline several rfl rfl (rows.imp fun _ _ => IsVariants.testsRows), rfl⟩

-- The rows of all examples of a scenario.
def rowsOf (scenario : Scenario) : List (List (Option String)) :=
  scenario.examples.flatMap (·.rows)

theorem length_tests {scenario : Scenario} {sets : List (Examples × Option String)}
    {tests : List (List Method)} (h : List.Forall₂ (TestsRows scenario) sets tests) :
    tests.flatten.length = ((sets.map Prod.fst).flatMap (·.rows)).length := by
  induction h with
  | nil => rfl
  | cons hfirst _ ih =>
      rw [List.flatten_cons, List.length_append, hfirst.length_eq, ih, List.map_cons,
        List.flatMap_cons, List.length_append]

-- One test for a scenario that is no outline, and one for each row of an outline.
theorem Stages.length_eq {kind : Kind} {feature : Feature} {scenario : Scenario}
    {methods tests : List Method} (h : Stages kind feature scenario methods tests) :
    tests.length = (if scenario.isOutline then 0 else 1) + (rowsOf scenario).length := by
  have hsingle : scenario.isOutline = false → rowsOf scenario = [] := by
    intro single
    have hnil : scenario.examples = [] := by simpa [Scenario.isOutline] using single
    rw [rowsOf, hnil, List.flatMap_nil]
  cases h with
  | plain single _ _ _ => simp [single, hsingle single]
  | retried single _ _ _ _ _ => simp [single, hsingle single]
  | outline several _ _ rows =>
      rw [length_tests rows, map_fst_zip_setIdentifiers, if_pos several, Nat.zero_add, rowsOf]

theorem length_staged {kind : Kind} {feature : Feature} {scenarios : List Scenario}
    {blocks : List (List Method)}
    (h : List.Forall₂ (fun scenario methods => Stages kind feature scenario methods (titled methods))
      scenarios blocks) :
    (titled blocks.flatten).length =
      scenarios.countP (!·.isOutline) + (scenarios.flatMap rowsOf).length := by
  induction h with
  | nil => rfl
  | @cons scenario _ rest _ hfirst _ ih =>
      have hone : (if scenario.isOutline then 0 else 1) =
          if (!scenario.isOutline) = true then 1 else 0 := by
        cases scenario.isOutline <;> rfl
      rw [List.flatten_cons, titled_append, List.length_append, hfirst.length_eq, ih,
        List.countP_cons, List.flatMap_cons, List.length_append, hone]
      omega

theorem untitled_lifecycle (traits : Traits) (language : Language) (feature : Feature) :
    ∀ m ∈ lifecycle traits language feature, m.description = none := by
  simp only [lifecycle, List.forall_mem_cons]
  exact ⟨rfl, rfl, rfl, rfl, rfl, rfl, List.forall_mem_nil _⟩

theorem untitled_background {feature : Feature} {given : List Method}
    (h : backgroundMethods feature = .ok given) : ∀ m ∈ given, m.description = none :=
  forall_mem_background h fun _ => rfl

theorem names_titled {kind : Kind} {feature : Feature} {before : Nat} {scenarios : List Scenario}
    {ps : List Portion}
    (h : List.Forall₂ (fun place p => IsPortion kind feature place.1 place.2 p)
      (numbered before scenarios) ps) :
    ps.flatMap (·.tests) = (titled (ps.flatMap (·.methods))).map (·.name) := by
  have htests : List.Forall₂
      (fun (_ : Scenario) p => p.tests = (titled p.methods).map (·.name)) scenarios ps :=
    forall₂_scenarios h fun _ _ _ _ hp => hp.stages.2
  clear h
  induction htests with
  | nil => rfl
  | cons hfirst _ ih =>
      rw [List.flatMap_cons, hfirst, ih, List.flatMap_cons, titled_append, List.map_append]

-- After its methods a class publishes those that frame the tests, and then each test once, in the
-- order of the feature. The tests are the methods with a title.
theorem generate_publishes {settings : Settings} {g : Generator}
    (hg : (Generator.ofSettings settings none).result = .ok g) {feature : Feature}
    {name target : Option String} {out : Generated}
    (hout : (generate g feature name target).result = .ok out) :
    ∃ c given blocks, out.source.classes = [c] ∧
      c.methods = lifecycle {} settings.language feature ++ given ++ blocks.flatten ∧
      c.members = runnerField :: c.methods.map .method ++
        [publish "setUpClass" "FeatureSetup", publish "tearDownClass" "FeatureTearDown",
         publish "setUp" "TestInitialize", publish "tearDown" "ScenarioTearDown"] ++
        (titled blocks.flatten).map (fun test => publish ("test_" ++ test.name) test.name) ∧
      List.Forall₂
        (fun scenario methods => Stages settings.kind feature scenario methods (titled methods))
        feature.scenarios blocks ∧
      (titled blocks.flatten).length =
        feature.scenarios.countP (!·.isOutline) + (feature.scenarios.flatMap rowsOf).length ∧
      titled (lifecycle {} settings.language feature ++ given) = [] := by
  cases Generator.ofSettings_eq_ok hg
  obtain ⟨given, ps, hgiven, -, hps, rfl⟩ := generate_eq_ok.mp hout
  have hmethods := methods_classOf settings feature (orElse name (className feature)) given ps
  have hstaged : List.Forall₂
      (fun scenario methods => Stages settings.kind feature scenario methods (titled methods))
      feature.scenarios (ps.map (·.methods)) := by
    rw [List.forall₂_map_right_iff]
    exact forall₂_scenarios hps fun _ _ _ _ hp => hp.stages.1
  refine ⟨_, given, ps.map (·.methods), rfl, ?_, ?_, hstaged, length_staged hstaged, ?_⟩
  · rw [hmethods, List.flatMap_def]
  · rw [hmethods, ← List.flatMap_def]
    have haliases : aliases frame (ps.flatMap (·.tests)) =
        [publish "setUpClass" "FeatureSetup", publish "tearDownClass" "FeatureTearDown",
         publish "setUp" "TestInitialize", publish "tearDown" "ScenarioTearDown"] ++
        (titled (ps.flatMap (·.methods))).map fun test =>
          publish ("test_" ++ test.name) test.name := by
      rw [names_titled hps, aliases, List.map_map]
      rfl
    rw [List.append_assoc, ← haliases]
    rfl
  · have huntitled : ∀ m ∈ lifecycle {} settings.language feature ++ given,
        m.description = none :=
      List.forall_mem_append.mpr ⟨untitled_lifecycle _ _ _, untitled_background hgiven⟩
    apply List.filter_eq_nil_iff.mpr
    intro m hm
    rw [huntitled m hm]
    exact Bool.false_ne_true

def ferry : Feature :=
  { name := "Ferry"
    background := some
      { steps := [{ keyword := some "Given ", role := .given, text := some "a calm sea" }] }
    scenarios := [
      { name := "Board", tags := [{ name := "Retry:1" }] },
      { name := "Cross"
        steps := [{ keyword := some "When ", role := .action, text := some "<n> cross" }]
        examples := [
          { name := "By day", header := some [some "n"], rows := [[some "1"], [some "2"]] },
          { header := some [some "n"] },
          { header := some [some "n"], rows := [[some "1"]] }] },
      { name := "Land" }] }

-- Five tests: one of them is retried, and three are rows of an outline with an empty set.
theorem generate_publishes_ferry : ∃ g out,
    (Generator.ofSettings {} none).result = .ok g ∧
    (generate g ferry none none).result = .ok out ∧
    ∃ c given blocks, out.source.classes = [c] ∧
      c.methods = lifecycle {} .python ferry ++ given ++ blocks.flatten ∧
      c.members = runnerField :: c.methods.map .method ++
        [publish "setUpClass" "FeatureSetup", publish "tearDownClass" "FeatureTearDown",
         publish "setUp" "TestInitialize", publish "tearDown" "ScenarioTearDown"] ++
        (titled blocks.flatten).map (fun test => publish ("test_" ++ test.name) test.name) ∧
      List.Forall₂ (fun scenario methods => Stages .retry ferry scenario methods (titled methods))
        ferry.scenarios blocks ∧
      (titled blocks.flatten).length = 5 ∧
      titled (lifecycle {} .python ferry ++ given) = [] := by
  refine ⟨_, _, rfl, rfl, ?_⟩
  exact @generate_publishes {} _ rfl ferry none none _ rfl

end Rehearsal.TestClass
