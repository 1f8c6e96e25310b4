import Rehearsal.Proofs.StepCall
import Rehearsal.Proofs.TestClass.Anatomy

namespace Rehearsal.TestClass

open Code Outline
open StepCall (tablesIn tablesInAll tablesInHandlers tableName tableNames)

-- An outline with tags of its own joins them with those of the examples.
def joinsTags (known : Option Placeholders) (scenario : Scenario) : Bool :=
  known.isSome && !scenario.tags.isEmpty

def tagsOf (known : Option Placeholders) (scenario : Scenario) : Expr :=
  if joinsTags known scenario then mergedTags
  else if known.isSome then .var exampleTags
  else tagArray (scenario.tags.map (·.name))

-- What stands before the steps of a scenario.
def prologue (feature : Feature) (known : Option Placeholders) (scenario : Scenario) : List Stmt :=
  (if joinsTags known scenario then joinTags (scenario.tags.map (·.name)) else []) ++
    [.declare (typeNamed "ScenarioInfo") "scenarioInfo"
      (some (.create (typeNamed "ScenarioInfo") [text scenario.name, tagsOf known scenario])),
     invokeThis "ScenarioSetup" [.var "scenarioInfo"]] ++
    if feature.background.isSome then [invokeThis "FeatureBackground" []] else []

-- The body is the prologue, statements that read back as the steps, and the cleanup.
def HoldsSteps (feature : Feature) (known : Option Placeholders) (scenario : Scenario)
    (m : Method) : Prop :=
  ∃ emitted,
    m.statements = prologue feature known scenario ++ emitted ++ [invokeThis "ScenarioCleanup" []] ∧
    StepCall.read none emitted = some (scenario.steps.map (.ofStep known))

-- Where the methods of a scenario have its steps: in the test, in the inner method of one that is
-- retried, or in the template of an outline, which the tests of the rows call.
inductive Carries (kind : Kind) (feature : Feature) (scenario : Scenario) : List Method → Prop where
  | plain {test : Method}
      (single : scenario.isOutline = false)
      (once : directiveFor kind feature scenario = none)
      (name : test.name = methodName scenario)
      (holds : HoldsSteps feature none scenario test) :
      Carries kind feature scenario [test]
  | retried {outer inner : Method} {d : Retry.Directive}
      (single : scenario.isOutline = false)
      (again : directiveFor kind feature scenario = some d)
      (name : outer.name = methodName scenario)
      (innerName : inner.name = methodName scenario ++ "Internal")
      (loops : outer.statements = Retry.loop inner d.count d.spared)
      (holds : HoldsSteps feature none scenario inner) :
      Carries kind feature scenario [outer, inner]
  | outline {template : Method} {variants : List Method} {header : List (Option String)}
      {known : Placeholders}
      (several : scenario.isOutline)
      (agreed : columns scenario = .ok header)
      (named : placeholdersOf header = .ok known)
      (name : template.name = methodName scenario)
      (holds : HoldsSteps feature (some known) scenario template)
      (calls : ∀ variant ∈ variants,
        ∃ arguments, variant.statements = [invokeThis (methodName scenario) arguments]) :
      Carries kind feature scenario (template :: variants)

def CarriesBackground (feature : Feature) (methods : List Method) : Prop :=
  match feature.background with
  | none => methods = []
  | some given => ∃ m, methods = [m] ∧ m.name = "FeatureBackground" ∧
      StepCall.read none m.statements = some (given.steps.map (.ofStep none))

def hasTable (step : Step) : Bool :=
  match step.argument with
  | some (.table _) => true
  | _ => false

-- All steps of a feature, in order.
def allSteps (feature : Feature) : List Step :=
  feature.background.toList.flatMap (·.steps) ++ feature.scenarios.flatMap (·.steps)

def tableVariables (c : ClassDecl) : List String :=
  c.methods.flatMap fun m => tablesInAll m.statements

theorem opening_eq_prologue (feature : Feature) (known : Option Placeholders)
    (scenario : Scenario) :
    opening feature.background.isSome known scenario = prologue feature known scenario := by
  cases known with
  | none => simp [opening, prologue, tagPreamble, joinsTags, tagsOf, scenarioInfoType,
      scenarioSetupName, backgroundName]
  | some table =>
      by_cases hnil : scenario.tags = [] <;>
        simp [opening, prologue, tagPreamble, joinsTags, tagsOf, hnil, scenarioInfoType,
          scenarioSetupName, backgroundName]

theorem body_eq_ok {hasBackground : Bool} {known : Option Placeholders} {before : Nat}
    {scenario : Scenario} {statements : List Stmt} :
    body hasBackground known before scenario = .ok statements ↔
      ∃ emitted, StepCall.allStatements known before scenario.steps = .ok emitted ∧
        statements = opening hasBackground known scenario ++ emitted ++
          [invokeThis scenarioCleanupName []] := by
  cases h : StepCall.allStatements known before scenario.steps with
  | error fault => simp [body, h, bind, Except.bind]
  | ok emitted => simp [body, h, bind, Except.bind, pure, Except.pure, eq_comm]

theorem holdsSteps_of_body {feature : Feature} {known : Option Placeholders} {before : Nat}
    {scenario : Scenario} {m : Method}
    (h : body feature.background.isSome known before scenario = .ok m.statements) :
    HoldsSteps feature known scenario m := by
  obtain ⟨emitted, hemitted, hstatements⟩ := body_eq_ok.mp h
  rw [opening_eq_prologue] at hstatements
  exact ⟨emitted, hstatements, StepCall.read_allStatements hemitted⟩

theorem statements_of_isVariants {kind : Kind} {scenario : Scenario}
    {sets : List (Examples × Option String)} {variants : List (List Method)}
    (h : List.Forall₂ (IsVariants kind scenario) sets variants) :
    ∀ variant ∈ variants.flatten,
      ∃ arguments, variant.statements = [invokeThis (methodName scenario) arguments] := by
  intro variant hvariant
  obtain ⟨examples, set, name, row, rfl⟩ := eq_variantMethod_of_mem h variant hvariant
  exact ⟨_, rfl⟩

theorem IsPortion.carries {kind : Kind} {feature : Feature} {before : Nat} {scenario : Scenario}
    {p : Portion} (h : IsPortion kind feature before scenario p) :
    Carries kind feature scenario p.methods := by
  cases h with
  | plain single once steps => exact .plain single once rfl (holdsSteps_of_body steps)
  | retried single again _ steps =>
      exact .retried single again rfl rfl rfl (holdsSteps_of_body steps)
  | outline several agreed named steps rows =>
      exact .outline several agreed named rfl (holdsSteps_of_body steps)
        (statements_of_isVariants rows)

theorem portions_carry {kind : Kind} {feature : Feature} {before : Nat}
    {scenarios : List Scenario} {ps : List Portion}
    (h : List.Forall₂ (fun place p => IsPortion kind feature place.1 place.2 p)
      (numbered before scenarios) ps) :
    List.Forall₂ (Carries kind feature) scenarios (ps.map (·.methods)) := by
  rw [List.forall₂_map_right_iff]
  exact forall₂_scenarios h fun _ _ _ _ hp => hp.carries

theorem carriesBackground_of_eq_ok {feature : Feature} {methods : List Method}
    (h : backgroundMethods feature = .ok methods) : CarriesBackground feature methods := by
  rw [backgroundMethods_eq_ok] at h
  unfold CarriesBackground
  cases hb : feature.background with
  | none => simpa [hb] using h
  | some given =>
      simp only [hb] at h
      obtain ⟨statements, hstatements, rfl⟩ := h
      exact ⟨_, rfl, rfl, StepCall.read_allStatements hstatements⟩

theorem tablesInAll_opening (hasBackground : Bool) (known : Option Placeholders)
    (scenario : Scenario) : tablesInAll (opening hasBackground known scenario) = [] := by
  have hpreamble : tablesInAll (tagPreamble known (scenario.tags.map (·.name))).1 = [] := by
    unfold tagPreamble
    cases known with
    | none => rfl
    | some table =>
        dsimp only
        split <;> rfl
  simp only [opening, StepCall.tablesInAll_append, hpreamble, List.nil_append]
  cases hasBackground <;> rfl

theorem tablesInAll_body {hasBackground : Bool} {known : Option Placeholders} {before : Nat}
    {scenario : Scenario} {statements : List Stmt}
    (h : body hasBackground known before scenario = .ok statements) :
    tablesInAll statements = tableNames before (tableCount scenario.steps) := by
  obtain ⟨emitted, hemitted, rfl⟩ := body_eq_ok.mp h
  simp [StepCall.tablesInAll_append, tablesInAll_opening,
    StepCall.tablesInAll_allStatements hemitted, tablesInAll, invokeThis]

theorem tablesInHandlers_handlers (spared : Option String) :
    tablesInHandlers (Retry.handlers spared) = [] := by
  unfold Retry.handlers
  cases spared with
  | none => rfl
  | some name =>
      dsimp only
      split <;> rfl

theorem tablesInAll_loop (inner : Method) (count : Int) (spared : Option String) :
    tablesInAll (Retry.loop inner count spared) = [] := by
  have hattempt : tablesIn (Retry.attempt inner spared) = [] := by
    simp [Retry.attempt, tablesIn, tablesInAll, invokeThis, tablesInHandlers_handlers]
  have htypes : StepCall.isTable (.of exceptionType) = false ∧
      StepCall.isTable (.of intType) = false := by decide
  simp [Retry.loop, tablesInAll, tablesIn, hattempt, htypes, Runner.call]

-- The methods that a test class always has declare no tables.
theorem tablesInAll_lifecycle (traits : Traits) (language : Language) (feature : Feature) :
    (lifecycle traits language feature).flatMap (fun m => tablesInAll m.statements) = [] := by
  rfl

theorem IsPortion.tables {kind : Kind} {feature : Feature} {before : Nat} {scenario : Scenario}
    {p : Portion} (h : IsPortion kind feature before scenario p) :
    p.methods.flatMap (fun m => tablesInAll m.statements) =
      tableNames before (tableCount scenario.steps) := by
  cases h with
  | plain _ _ steps => simp [tablesInAll_body steps]
  | retried _ _ _ steps => simp [tablesInAll_loop, tablesInAll_body steps]
  | @outline header known statements variants several agreed named steps rows =>
      have hvariants : variants.flatten.flatMap (fun m => tablesInAll m.statements) = [] := by
        rw [List.flatMap_eq_nil_iff]
        intro variant hvariant
        obtain ⟨arguments, hcall⟩ := statements_of_isVariants rows variant hvariant
        simp [hcall, tablesInAll, invokeThis]
      rw [List.flatMap_cons, hvariants, List.append_nil]
      exact tablesInAll_body steps

theorem portions_tables {kind : Kind} {feature : Feature} {before : Nat}
    {scenarios : List Scenario} {ps : List Portion}
    (h : List.Forall₂ (fun place p => IsPortion kind feature place.1 place.2 p)
      (numbered before scenarios) ps) :
    (ps.flatMap (·.methods)).flatMap (fun m => tablesInAll m.statements) =
      tableNames before (tableCount (scenarios.flatMap (·.steps))) := by
  induction scenarios generalizing before ps with
  | nil =>
      cases h
      rfl
  | cons scenario rest ih =>
      obtain _ | ⟨hfirst, hothers⟩ := h
      rw [List.flatMap_cons, List.flatMap_append, hfirst.tables, ih hothers, List.flatMap_cons,
        StepCall.tableCount_append, StepCall.tableNames_add]

theorem backgroundMethods_tables {feature : Feature} {methods : List Method}
    (h : backgroundMethods feature = .ok methods) :
    methods.flatMap (fun m => tablesInAll m.statements) = tableNames 0 (backgroundTables feature) := by
  rw [backgroundMethods_eq_ok] at h
  unfold backgroundTables
  cases hb : feature.background with
  | none =>
      simp only [hb] at h
      subst h
      rfl
  | some given =>
      simp only [hb] at h
      obtain ⟨statements, hstatements, rfl⟩ := h
      simp [StepCall.tablesInAll_allStatements hstatements]

theorem backgroundTables_eq (feature : Feature) :
    backgroundTables feature = tableCount (feature.background.toList.flatMap (·.steps)) := by
  unfold backgroundTables
  cases feature.background <;> simp [tableCount]

theorem tableCount_eq_countP (steps : List Step) : tableCount steps = steps.countP hasTable := by
  induction steps with
  | nil => rfl
  | cons step rest ih =>
      have hstep : step.tableCount = if hasTable step then 1 else 0 := by
        obtain ⟨keyword, role, text, argument, line⟩ := step
        rcases argument with _ | (_ | _ | _) <;> rfl
      rw [tableCount, ih, List.countP_cons, hstep, Nat.add_comm]

theorem methods_classOf (settings : Settings) (feature : Feature) (name : String)
    (given : List Method) (ps : List Portion) :
    (classOf settings feature name given ps).methods =
      lifecycle {} settings.language feature ++ given ++ ps.flatMap (·.methods) :=
  methods_members (.forUnittest settings) feature given ps

-- Every step of a feature is in the class, where it belongs and as it was written, and the
-- variables for tables are numbered from one.
theorem generate_carries_steps {settings : Settings} {g : Generator}
    (hg : (Generator.ofSettings settings none).result = .ok g) {feature : Feature}
    {name target : Option String} {out : Generated}
    (hout : (generate g feature name target).result = .ok out) :
    ∃ c given blocks, out.source.classes = [c] ∧
      c.methods = lifecycle {} settings.language feature ++ given ++ blocks.flatten ∧
      CarriesBackground feature given ∧
      List.Forall₂ (Carries settings.kind feature) feature.scenarios blocks ∧
      tableVariables c = (List.range ((allSteps feature).countP hasTable)).map fun i =>
        "table" ++ toString (i + 1) := by
  cases Generator.ofSettings_eq_ok hg
  obtain ⟨given, ps, hgiven, -, hps, rfl⟩ := generate_eq_ok.mp hout
  have hmethods := methods_classOf settings feature (orElse name (className feature)) given ps
  refine ⟨_, given, ps.map (·.methods), rfl, ?_, carriesBackground_of_eq_ok hgiven,
    portions_carry hps, ?_⟩
  · rw [hmethods, List.flatMap_def]
  · have hcount : backgroundTables feature + tableCount (feature.scenarios.flatMap (·.steps)) =
        (allSteps feature).countP hasTable := by
      rw [backgroundTables_eq, ← StepCall.tableCount_append, tableCount_eq_countP, allSteps]
    have hnames := StepCall.tableNames_add 0 (backgroundTables feature)
      (tableCount (feature.scenarios.flatMap (·.steps)))
    rw [hcount, Nat.zero_add] at hnames
    rw [tableVariables, hmethods, List.flatMap_append, List.flatMap_append, tablesInAll_lifecycle,
      List.nil_append, backgroundMethods_tables hgiven, portions_tables hps, ← hnames]
    simp [tableNames, tableName]

def order : Feature :=
  { name := "Order"
    background := some
      { steps := [
          { keyword := some "Given ", role := .given, text := some "prices"
            argument := some (.table ⟨[[some "item", some "price"], [some "tea", some "3"]]⟩) }] }
    scenarios := [
      { name := "Pay"
        tags := [{ name := "Retry:1" }]
        steps := [
          { keyword := some "When ", role := .action, text := some "paying"
            argument := some (.docString ⟨some "card", none⟩) }] },
      { name := "Ship"
        steps := [
          { keyword := some "Then ", role := .outcome, text := some "<n> parcels"
            argument := some (.table ⟨[[some "<n>"]]⟩) }]
        examples := [{ header := some [some "n"], rows := [[some "1"], [some "2"]] }] }] }

theorem generate_carries_steps_order : ∃ g out,
    (Generator.ofSettings {} none).result = .ok g ∧
    (generate g order none none).result = .ok out ∧
    ∃ c given blocks, out.source.classes = [c] ∧
      c.methods = lifecycle {} .python order ++ given ++ blocks.flatten ∧
      CarriesBackground order given ∧
      List.Forall₂ (Carries .retry order) order.scenarios blocks ∧
      tableVariables c = ["table1", "table2"] := by
  have hnames : (List.range ((allSteps order).countP hasTable)).map (fun i =>
      "table" ++ toString (i + 1)) = ["table1", "table2"] := by decide
  refine ⟨_, _, rfl, rfl, ?_⟩
  rw [← hnames]
  exact @generate_carries_steps {} _ rfl order none none _ rfl

end Rehearsal.TestClass
