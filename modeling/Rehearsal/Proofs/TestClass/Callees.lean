import Mathlib.Data.List.Nodup
import Rehearsal.Feature.Reader
import Rehearsal.Proofs.TestClass.Revision
import Rehearsal.Proofs.TestClass.Steps

namespace Rehearsal

namespace Code

mutual

-- The methods that an expression calls on its own object.
def Expr.selfCalls : Expr → List String
  | .literal _ | .var _ | .this | .typeName _ | .foreign _ => []
  | .call .this method arguments => method :: Expr.allSelfCalls arguments
  | .call target _ arguments => target.selfCalls ++ Expr.allSelfCalls arguments
  | .field target _ | .cast _ target => target.selfCalls
  | .create _ items | .array _ items | .format _ items => Expr.allSelfCalls items
  | .binary left _ right | .concat left right => left.selfCalls ++ right.selfCalls

def Expr.allSelfCalls : List Expr → List String
  | [] => []
  | e :: rest => e.selfCalls ++ Expr.allSelfCalls rest

end

mutual

def Stmt.selfCalls : Stmt → List String
  | .eval value => value.selfCalls
  | .declare _ _ value | .leave value | .throw value => value.toList.flatMap Expr.selfCalls
  | .assign left right => left.selfCalls ++ right.selfCalls
  | .loop init test increment body =>
      init.selfCalls ++ test.selfCalls ++ increment.selfCalls ++ Stmt.allSelfCalls body
  | .guarded body handlers => Stmt.allSelfCalls body ++ Handler.allSelfCalls handlers
  | .branch condition yes no =>
      condition.selfCalls ++ Stmt.allSelfCalls yes ++ Stmt.allSelfCalls no
  | .foreign _ => []

def Stmt.allSelfCalls : List Stmt → List String
  | [] => []
  | s :: rest => s.selfCalls ++ Stmt.allSelfCalls rest

def Handler.selfCalls : Handler → List String
  | .mk _ _ body => Stmt.allSelfCalls body
  | .foreign _ => []

def Handler.allSelfCalls : List Handler → List String
  | [] => []
  | h :: rest => h.selfCalls ++ Handler.allSelfCalls rest

end

def Method.selfCalls (m : Method) : List String := Stmt.allSelfCalls m.statements

def ClassDecl.selfCalls (c : ClassDecl) : List String := c.methods.flatMap Method.selfCalls

theorem Expr.allSelfCalls_eq_nil {es : List Expr} (h : ∀ e ∈ es, e.selfCalls = []) :
    Expr.allSelfCalls es = [] := by
  induction es with
  | nil => rfl
  | cons e rest ih =>
      rw [List.forall_mem_cons] at h
      rw [Expr.allSelfCalls, h.1, ih h.2]
      rfl

@[simp] theorem Stmt.allSelfCalls_append (front back : List Stmt) :
    Stmt.allSelfCalls (front ++ back) = Stmt.allSelfCalls front ++ Stmt.allSelfCalls back := by
  induction front with
  | nil => rfl
  | cons s rest ih => simp [Stmt.allSelfCalls, ih]

theorem Stmt.allSelfCalls_eq_nil {ss : List Stmt} (h : ∀ s ∈ ss, s.selfCalls = []) :
    Stmt.allSelfCalls ss = [] := by
  induction ss with
  | nil => rfl
  | cons s rest ih =>
      rw [List.forall_mem_cons] at h
      rw [Stmt.allSelfCalls, h.1, ih h.2]
      rfl

@[simp] theorem selfCalls_invokeThis (method : String) (arguments : List Expr) :
    (invokeThis method arguments).selfCalls = method :: Expr.allSelfCalls arguments := rfl

-- What a call on the runner passes on is all that can call the object itself.
@[simp] theorem selfCalls_callRunner (method : String) (arguments : List Expr) :
    (Runner.call method arguments).selfCalls = Expr.allSelfCalls arguments := rfl

@[simp] theorem selfCalls_textOrNull (value : Option String) :
    (textOrNull value).selfCalls = [] := by
  cases value <;> rfl

end Code

open Code

namespace Outline

@[simp] theorem selfCalls_tagArray (names : List String) : (tagArray names).selfCalls = [] := by
  unfold tagArray
  split
  · rfl
  · apply Expr.allSelfCalls_eq_nil
    simp [text, Expr.selfCalls]

@[simp] theorem selfCalls_substituted (known : Option Placeholders) (value : Option String) :
    (substituted known value).selfCalls = [] := by
  unfold substituted
  split
  · rfl
  · split
    · rfl
    · dsimp only
      split
      · rfl
      · apply Expr.allSelfCalls_eq_nil
        simp [Expr.selfCalls]

@[simp] theorem selfCalls_substitutedArray (known : Option Placeholders)
    (items : List (Option String)) : (substitutedArray known items).selfCalls = [] := by
  apply Expr.allSelfCalls_eq_nil
  simp

end Outline

open Outline

namespace StepCall

-- The statements of steps only talk to the runner and to tables.
theorem allSelfCalls_statements {known : Option Placeholders} {before : Nat} {step : Step}
    {statements : List Stmt} (h : StepCall.statements known before step = .ok statements) :
    Stmt.allSelfCalls statements = [] := by
  have hcall : ∀ content table, table.selfCalls = [] →
      (callRunner known step content table).selfCalls = [] := by
    intro content table htable
    apply Expr.allSelfCalls_eq_nil
    simp [htable]
  have hnull : (nullOf tableType).selfCalls = [] := rfl
  unfold StepCall.statements at h
  split at h <;> cases h
  · simp [Stmt.allSelfCalls, hcall _ _ hnull]
  · simp [Stmt.allSelfCalls, hcall _ _ hnull]
  · rename_i header body _
    have hrows : ∀ name, Stmt.allSelfCalls (declareTable known name header body) = [] := by
      intro name
      apply Stmt.allSelfCalls_eq_nil
      simp [declareTable, Stmt.selfCalls, invoke, Expr.selfCalls, Expr.allSelfCalls]
    simp [Stmt.allSelfCalls, hrows, hcall _ (.var _) rfl]

theorem allSelfCalls_allStatements {known : Option Placeholders} {before : Nat} {steps : List Step}
    {statements : List Stmt} (h : allStatements known before steps = .ok statements) :
    Stmt.allSelfCalls statements = [] := by
  induction steps generalizing before statements with
  | nil =>
      cases h
      rfl
  | cons step rest ih =>
      obtain ⟨first, others, hfirst, hothers, rfl⟩ := allStatements_cons_eq_ok.mp h
      rw [Stmt.allSelfCalls_append, allSelfCalls_statements hfirst, ih hothers]
      rfl

end StepCall

namespace TestClass

-- The methods that frame the tests. No generated code calls them.
def frameNames : List String :=
  ["FeatureSetup", "FeatureTearDown", "TestInitialize", "ScenarioTearDown"]

-- The methods that the body of every scenario calls.
def sharedNames (feature : Feature) : List String :=
  ["ScenarioSetup", "ScenarioCleanup"] ++
    if feature.background.isSome then ["FeatureBackground"] else []

-- A scenario that is retried has its body in an inner method.
def innerNames (kind : Kind) (feature : Feature) (scenario : Scenario) : List String :=
  if kind = .retry ∧ scenario.isOutline = false ∧
      (Retry.directive? scenario (some feature)).isSome then
    [methodName scenario ++ "Internal"]
  else []

-- The tests for the rows of an outline.
def rowNames (scenario : Scenario) : List String :=
  (scenario.examples.zip (setIdentifiers scenario.examples)).flatMap fun set =>
    ((namesOf set.1).toOption.getD []).map (variantMethodName scenario set.2)

theorem allSelfCalls_opening (feature : Feature) (known : Option Placeholders)
    (scenario : Scenario) :
    Stmt.allSelfCalls (opening feature.background.isSome known scenario) =
      "ScenarioSetup" :: if feature.background.isSome then ["FeatureBackground"] else [] := by
  have hpreamble : Stmt.allSelfCalls (tagPreamble known (scenario.tags.map (·.name))).1 = [] ∧
      (tagPreamble known (scenario.tags.map (·.name))).2.selfCalls = [] := by
    unfold tagPreamble
    cases known with
    | none => exact ⟨rfl, selfCalls_tagArray _⟩
    | some table =>
        dsimp only
        split
        · exact ⟨rfl, rfl⟩
        · refine ⟨?_, rfl⟩
          simp [joinTags, Stmt.allSelfCalls, Stmt.selfCalls, Expr.selfCalls, mergedTags,
            nullLiteral]
  cases feature.background <;>
    simp [opening, hpreamble, Stmt.allSelfCalls, Stmt.selfCalls, Expr.selfCalls,
      Expr.allSelfCalls, text, scenarioSetupName, backgroundName]

theorem mem_selfCalls_body {feature : Feature} {known : Option Placeholders} {before : Nat}
    {scenario : Scenario} {statements : List Stmt}
    (h : body feature.background.isSome known before scenario = .ok statements) (name : String) :
    name ∈ Stmt.allSelfCalls statements ↔ name ∈ sharedNames feature := by
  obtain ⟨emitted, hemitted, rfl⟩ := body_eq_ok.mp h
  rw [Stmt.allSelfCalls_append, Stmt.allSelfCalls_append, allSelfCalls_opening,
    StepCall.allSelfCalls_allStatements hemitted]
  cases hb : feature.background <;>
    simp [sharedNames, hb, Stmt.allSelfCalls, Expr.allSelfCalls, scenarioCleanupName, or_comm,
      or_left_comm]

theorem allSelfCalls_loop {inner : Method} (count : Int) (spared : Option String)
    (hp : inner.parameters = []) :
    Stmt.allSelfCalls (Retry.loop inner count spared) = [inner.name] := by
  have hhandlers : Handler.allSelfCalls (Retry.handlers spared) = [] := by
    unfold Retry.handlers
    cases spared with
    | none => rfl
    | some name =>
        dsimp only
        split <;> rfl
  have hattempt : (Retry.attempt inner spared).selfCalls = [inner.name] := by
    simp [Retry.attempt, Stmt.selfCalls, Stmt.allSelfCalls, hhandlers, Retry.passedOn, hp,
      Expr.allSelfCalls]
  simp [Retry.loop, Stmt.allSelfCalls, Stmt.selfCalls, hattempt, Expr.selfCalls,
    Expr.allSelfCalls, Retry.counterPlusOne, Retry.counter, Retry.lastException, nullLiteral, int]

theorem selfCalls_variantMethod (kind : Kind) (scenario : Scenario) (examples : Examples)
    (set : Option String) (name : String) (row : List (Option String)) :
    (variantMethod kind scenario examples set name row).selfCalls = [methodName scenario] := by
  have harguments : Expr.allSelfCalls
      (row.map textOrNull ++ [tagArray (examples.tags.map (·.name))]) = [] := by
    apply Expr.allSelfCalls_eq_nil
    rw [List.forall_mem_append, List.forall_mem_map, List.forall_mem_singleton]
    exact ⟨fun cell _ => selfCalls_textOrNull cell, selfCalls_tagArray _⟩
  simp [Method.selfCalls, variantMethod, Stmt.allSelfCalls, harguments]

theorem selfCalls_lifecycle (traits : Traits) (language : Language) (feature : Feature) :
    (lifecycle traits language feature).flatMap Method.selfCalls = [] := by
  have hinfo : (declareFeatureInfo language feature).selfCalls = [] := by
    simp [declareFeatureInfo, Stmt.selfCalls, Expr.selfCalls, Expr.allSelfCalls, text]
  have hrunner : (obtainRunner traits).selfCalls = [] := by
    unfold obtainRunner
    split <;> rfl
  simp [lifecycle, Method.selfCalls, classSetup, classCleanup, testSetup, testCleanup,
    scenarioSetup, scenarioCleanup, Stmt.allSelfCalls, Stmt.selfCalls, Expr.allSelfCalls,
    Expr.selfCalls, Runner.expr, thisField, nullLiteral, hinfo, hrunner]

theorem IsVariants.names {kind : Kind} {scenario : Scenario} {set : Examples × Option String}
    {methods : List Method} (h : IsVariants kind scenario set methods) :
    methods.map (·.name) =
      ((namesOf set.1).toOption.getD []).map (variantMethodName scenario set.2) := by
  obtain ⟨names, hnames, rfl⟩ := h
  have hzip : (names.zip set.1.rows).map Prod.fst = names :=
    List.map_fst_zip (Nat.le_of_eq (length_namesOf hnames))
  rw [List.map_map, hnames]
  calc (names.zip set.1.rows).map _
      = ((names.zip set.1.rows).map Prod.fst).map (variantMethodName scenario set.2) := by
        rw [List.map_map]
        rfl
    _ = names.map (variantMethodName scenario set.2) := by rw [hzip]

theorem names_of_isVariants {kind : Kind} {scenario : Scenario}
    {sets : List (Examples × Option String)} {variants : List (List Method)}
    (h : List.Forall₂ (IsVariants kind scenario) sets variants) :
    variants.flatten.map (·.name) = sets.flatMap fun set =>
      ((namesOf set.1).toOption.getD []).map (variantMethodName scenario set.2) := by
  induction h with
  | nil => rfl
  | cons hfirst _ ih =>
      rw [List.flatten_cons, List.map_append, ih, List.flatMap_cons, hfirst.names]

section Portion

variable {kind : Kind} {feature : Feature} {scenario : Scenario}

theorem rowNames_of_single (h : scenario.isOutline = false) : rowNames scenario = [] := by
  have hnil : scenario.examples = [] := by simpa [Scenario.isOutline] using h
  rw [rowNames, hnil]
  rfl

theorem innerNames_of_single (h : scenario.isOutline = false) :
    innerNames kind feature scenario =
      if (directiveFor kind feature scenario).isSome then [methodName scenario ++ "Internal"]
      else [] := by
  by_cases hkind : kind = .retry <;> simp [innerNames, directiveFor, hkind, h]

theorem innerNames_of_outline (h : scenario.isOutline) : innerNames kind feature scenario = [] := by
  simp [innerNames, h]

theorem IsPortion.names {before : Nat} {p : Portion}
    (h : IsPortion kind feature before scenario p) :
    p.methods.map (·.name) =
      methodName scenario :: (innerNames kind feature scenario ++ rowNames scenario) := by
  cases h with
  | plain single once _ =>
      rw [innerNames_of_single single, rowNames_of_single single, once]
      rfl
  | retried single again _ _ =>
      rw [innerNames_of_single single, rowNames_of_single single, again]
      rfl
  | outline several _ _ _ rows =>
      rw [innerNames_of_outline several, List.map_cons, names_of_isVariants rows]
      rfl

theorem IsPortion.mem_selfCalls {before : Nat} {p : Portion}
    (h : IsPortion kind feature before scenario p) (name : String) :
    name ∈ p.methods.flatMap Method.selfCalls ↔
      name ∈ sharedNames feature ∨ name ∈ innerNames kind feature scenario ∨
        name = methodName scenario ∧ rowNames scenario ≠ [] := by
  cases h with
  | plain single once steps =>
      simp [innerNames_of_single single, rowNames_of_single single, once, Method.selfCalls,
        mem_selfCalls_body steps]
  | @retried _ d single again _ steps =>
      have hloop : Stmt.allSelfCalls
          (Retry.loop (Retry.innerOf (testMethod kind scenario)) d.count d.spared) =
          [methodName scenario ++ "Internal"] := allSelfCalls_loop d.count d.spared rfl
      simp [innerNames_of_single single, rowNames_of_single single, again, Method.selfCalls,
        mem_selfCalls_body steps, hloop, or_comm]
  | @outline _ known statements variants several _ _ steps rows =>
      have hnames := names_of_isVariants rows
      have hcalls : name ∈ variants.flatten.flatMap Method.selfCalls ↔
          name = methodName scenario ∧ rowNames scenario ≠ [] := by
        rw [rowNames, ← hnames, ne_eq, List.map_eq_nil_iff, List.mem_flatMap]
        constructor
        · rintro ⟨m, hm, hname⟩
          obtain ⟨examples, set, row, cells, rfl⟩ := eq_variantMethod_of_mem rows m hm
          rw [selfCalls_variantMethod, List.mem_singleton] at hname
          exact ⟨hname, List.ne_nil_of_mem hm⟩
        · rintro ⟨hname, hne⟩
          obtain ⟨m, hm⟩ := List.exists_mem_of_ne_nil _ hne
          refine ⟨m, hm, ?_⟩
          obtain ⟨examples, set, row, cells, rfl⟩ := eq_variantMethod_of_mem rows m hm
          rw [selfCalls_variantMethod, hname]
          exact List.mem_singleton_self _
      have htemplate : name ∈ (template known scenario statements).selfCalls ↔
          name ∈ sharedNames feature := mem_selfCalls_body steps name
      rw [List.flatMap_cons, List.mem_append, htemplate, hcalls, innerNames_of_outline several]
      simp

end Portion

section Class

variable {kind : Kind} {feature : Feature} {before : Nat} {scenarios : List Scenario}
  {ps : List Portion}
  (h : List.Forall₂ (fun place p => IsPortion kind feature place.1 place.2 p)
    (numbered before scenarios) ps)
include h

theorem count_portions (name : String) :
    ((ps.flatMap (·.methods)).map (·.name)).count name =
      (scenarios.map methodName).count name +
        (scenarios.flatMap (innerNames kind feature)).count name +
        (scenarios.flatMap rowNames).count name := by
  induction scenarios generalizing before ps with
  | nil =>
      cases h
      rfl
  | cons scenario rest ih =>
      obtain _ | @⟨_, p, _, others, hfirst, hothers⟩ := h
      have hnames : p.methods.map (·.name) =
          methodName scenario :: (innerNames kind feature scenario ++ rowNames scenario) :=
        hfirst.names
      simp only [List.flatMap_cons, List.map_append, List.map_cons, List.count_append,
        List.count_cons, hnames, ih hothers]
      omega

theorem mem_selfCalls_portions (name : String) :
    name ∈ (ps.flatMap (·.methods)).flatMap Method.selfCalls ↔
      (scenarios ≠ [] ∧ name ∈ sharedNames feature) ∨
        name ∈ scenarios.flatMap (innerNames kind feature) ∨
        ∃ scenario ∈ scenarios, name = methodName scenario ∧ rowNames scenario ≠ [] := by
  induction scenarios generalizing before ps with
  | nil =>
      cases h
      simp
  | cons scenario rest ih =>
      obtain _ | @⟨_, p, _, others, hfirst, hothers⟩ := h
      have hcalls : name ∈ p.methods.flatMap Method.selfCalls ↔
          name ∈ sharedNames feature ∨ name ∈ innerNames kind feature scenario ∨
            name = methodName scenario ∧ rowNames scenario ≠ [] := hfirst.mem_selfCalls name
      rw [List.flatMap_cons, List.flatMap_append, List.mem_append, hcalls, ih hothers,
        List.flatMap_cons, List.mem_append, List.exists_mem_cons_iff]
      constructor
      · rintro ((hs | hi | ht) | (⟨-, hs⟩ | hi | ht))
        · exact .inl ⟨List.cons_ne_nil _ _, hs⟩
        · exact .inr (.inl (.inl hi))
        · exact .inr (.inr (.inl ht))
        · exact .inl ⟨List.cons_ne_nil _ _, hs⟩
        · exact .inr (.inl (.inr hi))
        · exact .inr (.inr (.inr ht))
      · rintro (⟨-, hs⟩ | (hi | hi) | (ht | ht))
        · exact .inl (.inl hs)
        · exact .inl (.inr (.inl hi))
        · exact .inr (.inr (.inl hi))
        · exact .inl (.inr (.inr ht))
        · exact .inr (.inr (.inr ht))

end Class

-- Every name that generated code calls stands for one method.
structure HasOwnCallees (kind : Kind) (feature : Feature) : Prop where
  shared : ∀ scenario ∈ feature.scenarios, methodName scenario ∉ sharedNames feature
  inner : ∀ scenario ∈ feature.scenarios, ∀ name ∈ innerNames kind feature scenario,
    ∀ other ∈ feature.scenarios, name ≠ methodName other ∧ name ∉ rowNames other
  template : ∀ scenario ∈ feature.scenarios, rowNames scenario ≠ [] →
    methodName scenario ∉ frameNames ∧
      ∀ other ∈ feature.scenarios, methodName scenario ∉ rowNames other

theorem underscore_mem_rowNames {scenario : Scenario} {name : String}
    (h : name ∈ rowNames scenario) : '_' ∈ name.toList := by
  obtain ⟨set, -, hname⟩ := List.mem_flatMap.mp h
  obtain ⟨row, -, rfl⟩ := List.mem_map.mp hname
  unfold variantMethodName
  split <;> simp [String.toList_append]

theorem suffix_of_mem_innerNames {kind : Kind} {feature : Feature} {scenario : Scenario}
    {name : String} (h : name ∈ innerNames kind feature scenario) :
    name = methodName scenario ++ "Internal" := by
  unfold innerNames at h
  split at h
  · exact List.mem_singleton.mp h
  · cases h

theorem fixedNames_look (feature : Feature) : ∀ name ∈ frameNames ++ sharedNames feature,
    ¬ "Internal".toList <:+ name.toList ∧ '_' ∉ name.toList := by
  unfold sharedNames
  cases feature.background.isSome <;> decide

-- The names that are fixed look like no name of an inner method or of a row.
theorem fixedNames_apart {kind : Kind} {feature : Feature} {name : String}
    (h : name ∈ frameNames ++ sharedNames feature) (scenarios : List Scenario) :
    name ∉ scenarios.flatMap (innerNames kind feature) ∧ name ∉ scenarios.flatMap rowNames := by
  obtain ⟨hsuffix, hunderscore⟩ := fixedNames_look feature name h
  constructor
  · intro hinner
    obtain ⟨scenario, -, hname⟩ := List.mem_flatMap.mp hinner
    apply hsuffix
    rw [suffix_of_mem_innerNames hname, String.toList_append]
    exact List.suffix_append ..
  · intro hrow
    obtain ⟨scenario, -, hname⟩ := List.mem_flatMap.mp hrow
    exact hunderscore (underscore_mem_rowNames hname)

theorem nodup_fixedNames (feature : Feature) : (frameNames ++ sharedNames feature).Nodup := by
  unfold sharedNames
  cases feature.background.isSome <;> decide

theorem nodup_innerNames {scenarios : List Scenario} (kind : Kind) (feature : Feature)
    (h : (scenarios.map methodName).Nodup) :
    (scenarios.flatMap (innerNames kind feature)).Nodup := by
  induction scenarios with
  | nil => exact List.nodup_nil
  | cons scenario rest ih =>
      rw [List.map_cons, List.nodup_cons] at h
      rw [List.flatMap_cons, List.nodup_append]
      refine ⟨?_, ih h.2, ?_⟩
      · unfold innerNames
        split <;> simp
      · rintro name hname _ hother rfl
        obtain ⟨other, hmem, hother⟩ := List.mem_flatMap.mp hother
        have heq : methodName scenario ++ "Internal" = methodName other ++ "Internal" :=
          (suffix_of_mem_innerNames hname).symm.trans (suffix_of_mem_innerNames hother)
        have hchars := congrArg String.toList heq
        rw [String.toList_append, String.toList_append] at hchars
        apply h.1
        rw [String.toList_inj.mp (List.append_cancel_right hchars)]
        exact List.mem_map_of_mem hmem

-- A name that is called, by the bodies of scenarios, by a loop or by the tests for rows.
def IsCalled (kind : Kind) (feature : Feature) (callee : String) : Prop :=
  (feature.scenarios ≠ [] ∧ callee ∈ sharedNames feature) ∨
    callee ∈ feature.scenarios.flatMap (innerNames kind feature) ∨
    ∃ scenario ∈ feature.scenarios, callee = methodName scenario ∧ rowNames scenario ≠ []

-- How many methods of a class go by a name.
def methodCount (kind : Kind) (feature : Feature) (name : String) : Nat :=
  (frameNames ++ sharedNames feature).count name + (feature.scenarios.map methodName).count name +
    (feature.scenarios.flatMap (innerNames kind feature)).count name +
    (feature.scenarios.flatMap rowNames).count name

theorem hasOwnCallees_of_unique {kind : Kind} {feature : Feature}
    (h : ∀ callee, IsCalled kind feature callee → methodCount kind feature callee = 1) :
    HasOwnCallees kind feature := by
  have hid : ∀ s ∈ feature.scenarios,
      0 < (feature.scenarios.map methodName).count (methodName s) :=
    fun s hs => List.count_pos_iff.mpr (List.mem_map_of_mem hs)
  have hrow : ∀ s ∈ feature.scenarios, ∀ name ∈ rowNames s,
      0 < (feature.scenarios.flatMap rowNames).count name :=
    fun s hs name hname => List.count_pos_iff.mpr (List.mem_flatMap.mpr ⟨s, hs, hname⟩)
  have hfixed : ∀ name, name ∈ frameNames ∨ name ∈ sharedNames feature →
      0 < (frameNames ++ sharedNames feature).count name :=
    fun name hname => List.count_pos_iff.mpr (List.mem_append.mpr hname)
  unfold methodCount at h
  constructor
  · intro s hs hshared
    have hone := h _ (.inl ⟨List.ne_nil_of_mem hs, hshared⟩)
    have := hid s hs
    have := hfixed _ (.inr hshared)
    omega
  · intro s hs name hname other hother
    have hmem : name ∈ feature.scenarios.flatMap (innerNames kind feature) :=
      List.mem_flatMap.mpr ⟨s, hs, hname⟩
    have hone := h _ (.inr (.inl hmem))
    have hinner := List.count_pos_iff.mpr hmem
    refine ⟨fun heq => ?_, fun hname => ?_⟩
    · have := hid other hother
      rw [← heq] at this
      omega
    · have := hrow other hother name hname
      omega
  · intro s hs hne
    have hone := h _ (.inr (.inr ⟨s, hs, rfl, hne⟩))
    have := hid s hs
    refine ⟨fun hframe => ?_, fun other hother hname => ?_⟩
    · have := hfixed _ (.inl hframe)
      omega
    · have := hrow other hother _ hname
      omega

-- A name that is called comes from one place, and comes up there once.
theorem methodCount_of_hasOwnCallees {kind : Kind} {feature : Feature}
    (hdistinct : (feature.scenarios.map methodName).Nodup) (h : HasOwnCallees kind feature)
    {callee : String} (hcalled : IsCalled kind feature callee) :
    methodCount kind feature callee = 1 := by
  unfold methodCount
  rcases hcalled with ⟨-, hshared⟩ | hinner | ⟨s, hs, rfl, hne⟩
  · have hmem : callee ∈ frameNames ++ sharedNames feature := List.mem_append_right _ hshared
    have hone := List.count_eq_one_of_mem (nodup_fixedNames feature) hmem
    obtain ⟨hinner, hrow⟩ := @fixedNames_apart kind feature callee hmem feature.scenarios
    have hid : callee ∉ feature.scenarios.map methodName := by
      intro hid
      obtain ⟨s, hs, rfl⟩ := List.mem_map.mp hid
      exact h.shared s hs hshared
    rw [hone, List.count_eq_zero.mpr hid, List.count_eq_zero.mpr hinner,
      List.count_eq_zero.mpr hrow]
  · have hone := List.count_eq_one_of_mem (nodup_innerNames kind feature hdistinct) hinner
    have hfixed : callee ∉ frameNames ++ sharedNames feature :=
      fun hmem => (fixedNames_apart hmem feature.scenarios).1 hinner
    obtain ⟨s, hs, hname⟩ := List.mem_flatMap.mp hinner
    have hid : callee ∉ feature.scenarios.map methodName := by
      intro hid
      obtain ⟨other, hother, heq⟩ := List.mem_map.mp hid
      exact (h.inner s hs callee hname other hother).1 heq.symm
    have hrow : callee ∉ feature.scenarios.flatMap rowNames := by
      intro hrow
      obtain ⟨other, hother, hrow⟩ := List.mem_flatMap.mp hrow
      exact (h.inner s hs callee hname other hother).2 hrow
    rw [hone, List.count_eq_zero.mpr hfixed, List.count_eq_zero.mpr hid,
      List.count_eq_zero.mpr hrow]
  · have hone := List.count_eq_one_of_mem hdistinct (List.mem_map_of_mem hs)
    have hfixed : methodName s ∉ frameNames ++ sharedNames feature := by
      rw [List.mem_append, not_or]
      exact ⟨(h.template s hs hne).1, h.shared s hs⟩
    have hinner : methodName s ∉ feature.scenarios.flatMap (innerNames kind feature) := by
      intro hinner
      obtain ⟨other, hother, hname⟩ := List.mem_flatMap.mp hinner
      exact (h.inner other hother _ hname s hs).1 rfl
    have hrow : methodName s ∉ feature.scenarios.flatMap rowNames := by
      intro hrow
      obtain ⟨other, hother, hrow⟩ := List.mem_flatMap.mp hrow
      exact (h.template s hs hne).2 other hother hrow
    rw [hone, List.count_eq_zero.mpr hfixed, List.count_eq_zero.mpr hinner,
      List.count_eq_zero.mpr hrow]

theorem names_of_backgroundMethods {feature : Feature} {given : List Method}
    (h : backgroundMethods feature = .ok given) :
    given.map (·.name) = (if feature.background.isSome then ["FeatureBackground"] else []) ∧
      given.flatMap Method.selfCalls = [] := by
  rw [backgroundMethods_eq_ok] at h
  cases hb : feature.background with
  | none =>
      simp only [hb] at h
      subst h
      exact ⟨rfl, rfl⟩
  | some background =>
      simp only [hb] at h
      obtain ⟨statements, hstatements, rfl⟩ := h
      refine ⟨rfl, ?_⟩
      rw [List.flatMap_singleton]
      exact StepCall.allSelfCalls_allStatements hstatements

section Class

variable {settings : Settings} {feature : Feature} {given : List Method} {ps : List Portion}
  (hgiven : backgroundMethods feature = .ok given)
  (hps : List.Forall₂ (fun place p => IsPortion settings.kind feature place.1 place.2 p)
    (numbered (backgroundTables feature) feature.scenarios) ps)
include hgiven hps

theorem count_methods_classOf (className name : String) :
    ((classOf settings feature className given ps).methods.map (·.name)).count name =
      methodCount settings.kind feature name := by
  have hlifecycle : (lifecycle {} settings.language feature).map (·.name) =
      frameNames ++ ["ScenarioSetup", "ScenarioCleanup"] := rfl
  rw [methods_classOf, List.map_append, List.map_append, List.count_append, hlifecycle,
    (names_of_backgroundMethods hgiven).1, count_portions hps, List.append_assoc, methodCount,
    sharedNames]
  omega

theorem mem_selfCalls_classOf (className callee : String) :
    callee ∈ (classOf settings feature className given ps).selfCalls ↔
      IsCalled settings.kind feature callee := by
  rw [ClassDecl.selfCalls, methods_classOf, List.flatMap_append, List.flatMap_append,
    selfCalls_lifecycle, (names_of_backgroundMethods hgiven).2, List.nil_append, List.nil_append,
    mem_selfCalls_portions hps, IsCalled]

end Class

-- Where scenarios have names of their own, a name that generated code calls may still stand for
-- two methods: an inner method, a test for a row or a method of the frame may be in the way.
theorem selfCalls_unique_iff {settings : Settings} {g : Generator}
    (hg : (Generator.ofSettings settings none).result = .ok g) {feature : Feature}
    (hdistinct : (feature.scenarios.map methodName).Nodup) {name target : Option String}
    {out : Generated} (hout : (generate g feature name target).result = .ok out) :
    ∃ c, out.source.classes = [c] ∧
      ((∀ callee ∈ c.selfCalls, (c.methods.map (·.name)).count callee = 1) ↔
        HasOwnCallees settings.kind feature) := by
  cases Generator.ofSettings_eq_ok hg
  obtain ⟨given, ps, hgiven, -, hps, rfl⟩ := generate_eq_ok.mp hout
  refine ⟨_, rfl, ?_⟩
  simp only [mem_selfCalls_classOf hgiven hps, count_methods_classOf hgiven hps]
  constructor
  · exact hasOwnCallees_of_unique
  · intro h callee hcalled
    exact methodCount_of_hasOwnCallees hdistinct h hcalled

-- A background, a scenario that is retried and an outline with two rows.
theorem selfCalls_unique_order : ∃ g out c,
    (Generator.ofSettings {} none).result = .ok g ∧
    (order.scenarios.map methodName).Nodup ∧
    (generate g order none none).result = .ok out ∧
    out.source.classes = [c] ∧
    ∀ callee ∈ c.selfCalls, (c.methods.map (·.name)).count callee = 1 := by
  have hown : HasOwnCallees .retry order := ⟨by decide, by decide, by decide⟩
  obtain ⟨c, hclass, hunique⟩ := @selfCalls_unique_iff {} _ rfl order (by decide) none none _ rfl
  exact ⟨_, _, c, rfl, by decide, rfl, hclass, hunique.mpr hown⟩

def paymentsText : String := "Feature: Pay\n@Retry:1\nScenario: Pay\nScenario: Pay internal\n"

def payments : Feature :=
  { name := "Pay"
    scenarios := [
      { name := "Pay", tags := [⟨"Retry:1", 2⟩], line := 3 },
      { name := "Pay internal", line := 4 }] }

-- The second scenario takes the name of the inner method that the loop of the first one calls.
theorem selfCalls_ambiguous_payments :
    Feature.parse "" paymentsText = .ok payments ∧
    (payments.scenarios.map methodName).Nodup ∧
    ∃ g out c, (Generator.ofSettings {} none).result = .ok g ∧
      (generate g payments none none).result = .ok out ∧
      out.source.classes = [c] ∧
      "PayInternal" ∈ c.selfCalls ∧ (c.methods.map (·.name)).count "PayInternal" = 2 :=
  ⟨by decide +kernel, by decide, _, _, _, rfl, rfl, rfl, by decide, by decide⟩

end TestClass

end Rehearsal
