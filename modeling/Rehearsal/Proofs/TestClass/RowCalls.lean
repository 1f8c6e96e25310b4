import Rehearsal.Proofs.TestClass.Columns
import Rehearsal.Proofs.TestClass.Steps

namespace Rehearsal

open Code Outline

namespace Code

-- The variables that statements declare.
def declaredNames (statements : List Stmt) : List String :=
  statements.filterMap fun
    | .declare _ name _ => some name
    | _ => none

theorem declaredNames_append (front back : List Stmt) :
    declaredNames (front ++ back) = declaredNames front ++ declaredNames back :=
  List.filterMap_append

end Code

-- All texts of a step in which placeholders are replaced.
def Step.texts (step : Step) : List (Option String) :=
  step.text ::
    match step.argument with
    | some (.docString doc) => [doc.content]
    | some (.table table) => table.rows.flatten
    | _ => []

variable {X : Type}

namespace StepCall

-- What the runner is handed for a step, given how its texts read and the number of the object
-- that its table is.
def calls (runner : Val X) (reads : Option String → Val X) (number : Nat) (step : Step) :
    List (Call X) :=
  let tell (content table : Val X) : Call X :=
    ⟨runner, step.role.word, [reads step.text, content, table, .ofText step.keyword]⟩
  match step.argument with
  | some (.docString doc) => [tell (reads doc.content) .null]
  | some (.table ⟨header :: body⟩) =>
      let table := .object "Table" number [.array (header.map reads)]
      body.map (fun row => ⟨table, "AddRow", [.array (row.map reads)]⟩) ++ [tell .null table]
  | _ => [tell .null .null]

def allCalls (runner : Val X) (reads : Option String → Val X) (number : Nat) :
    List Step → List (Call X)
  | [] => []
  | step :: rest =>
      calls runner reads number step ++ allCalls runner reads (number + step.tableCount) rest

theorem calls_congr {reads other : Option String → Val X} {step : Step}
    (h : ∀ text ∈ step.texts, reads text = other text) (runner : Val X) (number : Nat) :
    calls runner reads number step = calls runner other number step := by
  have hrow : ∀ row : List (Option String), row ⊆ step.texts → row.map reads = row.map other :=
    fun row hsub => List.map_congr_left fun text hmem => h text (hsub hmem)
  obtain ⟨keyword, role, text, argument, line⟩ := step
  have htext : reads text = other text := h text List.mem_cons_self
  unfold calls
  match argument with
  | none | some (.other _) | some (.table ⟨[]⟩) => simp only [htext]
  | some (.docString doc) =>
      have hdoc : reads doc.content = other doc.content :=
        h _ (List.mem_cons_of_mem _ List.mem_cons_self)
      simp only [htext, hdoc]
  | some (.table ⟨header :: body⟩) =>
      have hheader : header.map reads = header.map other := by
        apply hrow
        intro cell hcell
        exact List.mem_cons_of_mem _ (List.mem_flatten_of_mem List.mem_cons_self hcell)
      have hbody : ∀ row ∈ body, row.map reads = row.map other := by
        intro row hmem
        apply hrow
        intro cell hcell
        exact List.mem_cons_of_mem _
          (List.mem_flatten_of_mem (List.mem_cons_of_mem _ hmem) hcell)
      simp only [htext, hheader]
      congr 1
      apply List.map_congr_left
      intro row hmem
      rw [hbody row hmem]

-- The calls for steps depend on how their own texts read.
theorem allCalls_congr {reads other : Option String → Val X} {steps : List Step}
    (h : ∀ text ∈ steps.flatMap Step.texts, reads text = other text) (runner : Val X)
    (number : Nat) : allCalls runner reads number steps = allCalls runner other number steps := by
  induction steps generalizing number with
  | nil => rfl
  | cons step rest ih =>
      rw [List.flatMap_cons, List.forall_mem_append] at h
      rw [allCalls, allCalls, calls_congr h.1, ih h.2]

-- How a text reads where placeholders are replaced.
def filled (table : Placeholders) (value : String → String) (text : Option String) : Val X :=
  .ofText (text.map fun text => String.ofList (replaced (slotValue? table value) text.toList))

-- The state in which the statements of steps are run.
structure Ready (table : Placeholders) (value : String → String) (runner : Val X)
    (s : State X) : Prop where
  bound : Bound s table value
  runner : s.fields Runner.field = some runner

section Play

variable {host : Host X} {table : Placeholders} {value : String → String} {runner : Val X}
  {s t : State X}

theorem Ready.of_sameVariables (h : Ready table value runner s) (hst : SameVariables s t) :
    Ready table value runner t := by
  refine ⟨fun entry hentry => ?_, ?_⟩
  · rw [hst.locals]
    exact h.bound entry hentry
  · rw [hst.fields]
    exact h.runner

theorem Ready.setLocal (h : Ready table value runner s) {name : String}
    (hname : ∀ entry ∈ table.entries, entry.2 ≠ name) (v : Option (Val X)) :
    Ready table value runner (s.setLocal name v) := by
  refine ⟨fun entry hentry => ?_, h.runner⟩
  rw [State.locals_setLocal_of_ne s v (hname entry hentry)]
  exact h.bound entry hentry

theorem evaluates_runner (h : Ready table value runner s) :
    Evaluates host s Runner.expr runner := by
  rw [Evaluates, Runner.expr, thisField, eval, Exec.outcome_bind, eval, Exec.outcome_pure]
  dsimp only
  rw [readField, Exec.outcome_ofState, Val.field?, h.runner]
  rfl

theorem plays_callRunner (h : Ready table value runner s) (step : Step) (content : Option String)
    {e : Expr} {v : Val X} (he : Evaluates host s e v) :
    Plays host (exec host none (callRunner (some table) step content e)) s
      [⟨runner, step.role.word,
        [filled table value step.text, filled table value content, v, .ofText step.keyword]⟩]
      (SameVariables s) := by
  have harguments : List.Forall₂ (Evaluates host s)
      [substituted (some table) step.text, substituted (some table) content, e,
        textOrNull step.keyword]
      [filled table value step.text, filled table value content, v, .ofText step.keyword] :=
    .cons (evaluates_substituted h.bound _) (.cons (evaluates_substituted h.bound _)
      (.cons he (.cons (.textOrNull _) .nil)))
  exact plays_invoke step.role.word (evaluates_runner h) harguments

-- Every further row of a table is added by a call.
theorem plays_rows {name : String} {object : Val X} (h : Ready table value runner s)
    (hobject : s.locals name = some object) (body : List (List (Option String))) :
    Plays host
      (execAll host none (body.map fun row =>
        invoke (.var name) "AddRow" [substitutedArray (some table) row]))
      s (body.map fun row => ⟨object, "AddRow", [.array (row.map (filled table value))]⟩)
      (SameVariables s) := by
  induction body generalizing s with
  | nil => exact .nil ⟨rfl, rfl, rfl⟩
  | cons row rest ih =>
      have harguments : List.Forall₂ (Evaluates host s) [substitutedArray (some table) row]
          [.array (row.map (filled table value))] :=
        .cons (evaluates_substitutedArray h.bound row) .nil
      refine Plays.cons (plays_invoke "AddRow" (.var hobject) harguments) fun t hst => ?_
      have hobject' : t.locals name = some object := by rw [hst.locals, hobject]
      exact (ih (h.of_sameVariables hst) hobject').mono fun u htu => hst.trans htu

-- The calls for a step, and the variables for placeholders as they were.
theorem plays_statements {before : Nat} {step : Step} {statements : List Stmt}
    (hstatements : StepCall.statements (some table) before step = .ok statements)
    (hown : ∀ entry ∈ table.entries, entry.2 ∉ declaredNames statements)
    (h : Ready table value runner s) :
    Plays host (execAll host none statements) s
      (calls runner (filled table value) s.created step)
      (fun t => Ready table value runner t ∧ t.created = s.created + step.tableCount) := by
  obtain ⟨keyword, role, text, argument, line⟩ := step
  match argument, hstatements with
  | none, hstatements =>
      cases hstatements
      refine (Plays.single (plays_callRunner h _ none (.nullOf tableType))).mono fun t hst => ?_
      exact ⟨h.of_sameVariables hst, hst.created⟩
  | some (.docString doc), hstatements =>
      cases hstatements
      refine (Plays.single (plays_callRunner h _ doc.content (.nullOf tableType))).mono
        fun t hst => ?_
      exact ⟨h.of_sameVariables hst, hst.created⟩
  | some (.table ⟨header :: body⟩), hstatements =>
      cases hstatements
      have hname : ∀ entry ∈ table.entries, entry.2 ≠ tableName (before + 1) := by
        intro entry hentry heq
        apply hown entry hentry
        rw [heq]
        exact List.mem_cons_self
      have hheader : List.Forall₂ (Evaluates host s) [substitutedArray (some table) header]
          [.array (header.map (filled table value))] :=
        .cons (evaluates_substitutedArray h.bound header) .nil
      refine Plays.cons_silent (plays_declare_create (tableName (before + 1)) hheader) ?_
      rintro t rfl
      have hready : Ready table value runner { s with created := s.created + 1 } :=
        ⟨h.bound, h.runner⟩
      have hobject := State.locals_setLocal_self { s with created := s.created + 1 }
        (tableName (before + 1))
        (some (.object tableType.name s.created [.array (header.map (filled table value))]))
      refine Plays.append (plays_rows (hready.setLocal hname _) hobject body) fun u hu => ?_
      have huready := (hready.setLocal hname _).of_sameVariables hu
      have huobject := (congrFun hu.locals (tableName (before + 1))).trans hobject
      refine (Plays.single (plays_callRunner huready _ none (.var huobject))).mono fun v huv => ?_
      exact ⟨huready.of_sameVariables huv, huv.created.trans hu.created⟩

theorem plays_allStatements {before : Nat} {steps : List Step} {statements : List Stmt}
    (hstatements : allStatements (some table) before steps = .ok statements)
    (hown : ∀ entry ∈ table.entries, entry.2 ∉ declaredNames statements)
    (h : Ready table value runner s) :
    Plays host (execAll host none statements) s
      (allCalls runner (filled table value) s.created steps) (Ready table value runner) := by
  induction steps generalizing before statements s with
  | nil =>
      cases hstatements
      exact .nil h
  | cons step rest ih =>
      obtain ⟨first, others, hfirst, hothers, rfl⟩ := allStatements_cons_eq_ok.mp hstatements
      have hownFirst : ∀ entry ∈ table.entries, entry.2 ∉ declaredNames first := by
        intro entry hentry hmem
        apply hown entry hentry
        rw [declaredNames_append]
        exact List.mem_append_left _ hmem
      have hownOthers : ∀ entry ∈ table.entries, entry.2 ∉ declaredNames others := by
        intro entry hentry hmem
        apply hown entry hentry
        rw [declaredNames_append]
        exact List.mem_append_right _ hmem
      refine Plays.append (plays_statements hfirst hownFirst h) fun t ht => ?_
      rw [← ht.2]
      exact ih hothers hownOthers ht.1

end Play

end StepCall

namespace TestClass

open StepCall

-- The calls before the first step, given the number of the object that announces the scenario.
def openingCalls (hasBackground : Bool) (scenario : Scenario) (tags : List String)
    (number : Nat) : List (Call X) :=
  ⟨.this, "ScenarioSetup", [.object "ScenarioInfo" number
      [.text scenario.name, .ofTags (scenario.tags.map (·.name) ++ tags)]]⟩ ::
    if hasBackground then [⟨.this, "FeatureBackground", []⟩] else []

-- All calls of an outline for one row, given how texts read in it and the tags of its examples.
def rowCalls (runner : Val X) (reads : Option String → Val X) (feature : Feature)
    (scenario : Scenario) (tags : List String) : List (Call X) :=
  openingCalls feature.background.isSome scenario tags 0 ++
    allCalls runner reads 1 scenario.steps ++ [⟨.this, "ScenarioCleanup", []⟩]

section Play

variable {host : Host X} {table : Placeholders} {value : String → String} {runner : Val X}
  {s : State X}

-- Where the tags of the examples are not null, they are added to those of the scenario.
theorem outcome_addTags (host : Host X) {names tags : List String} (hnames : names ≠ [])
    (hmerged : s.locals "__tags" = some (.ofTags names))
    (htags : s.locals exampleTags = some (.ofTags tags)) :
    (exec host none
      (.branch (.binary (.var exampleTags) .distinct nullLiteral)
        [.assign mergedTags (.concat mergedTags (.var exampleTags))] [])).outcome s =
      some (.ok .next, if tags = [] then s else
        s.setLocal "__tags" (some (.ofTags (names ++ tags)))) := by
  have hall : (names ++ tags).isEmpty = false := by
    rw [List.isEmpty_eq_false_iff]
    exact List.append_ne_nil_of_left_ne_nil hnames tags
  have hnames : names.isEmpty = false := by simpa using hnames
  by_cases hnone : tags = []
  · subst hnone
    simp [exec, fork, eval, readLocal, htags, nullLiteral, Val.ofTags, Val.ofLiteral,
      Operator.result?, Operator.isSame?, Val.bool?, execAll]
  · have htagsEmpty : tags.isEmpty = false := by simpa using hnone
    simp [exec, fork, eval, readLocal, htags, hmerged, nullLiteral, Val.ofTags, hnames, hall,
      htagsEmpty, hnone, Val.ofLiteral, Operator.result?, Operator.isSame?, Val.bool?, execAll,
      andThen, mergedTags, Val.items?, store, writeLocal]

-- After the preamble the tags of the scenario and of the examples are at hand.
theorem plays_tagPreamble {names tags : List String} (h : Ready table value runner s)
    (hown : ∀ entry ∈ table.entries,
      entry.2 ∉ declaredNames (tagPreamble (some table) names).1)
    (htags : s.locals exampleTags = some (.ofTags tags)) :
    Plays host (execAll host none (tagPreamble (some table) names).1) s []
      (fun t => Ready table value runner t ∧ t.created = s.created ∧
        Evaluates host t (tagPreamble (some table) names).2 (.ofTags (names ++ tags))) := by
  by_cases hnames : names = []
  · subst hnames
    exact .nil ⟨h, rfl, .var htags⟩
  · have hempty : names.isEmpty = false := by simpa using hnames
    have hpreamble : tagPreamble (some table) names = (joinTags names, mergedTags) := by
      simp [tagPreamble, hempty]
    rw [hpreamble] at hown ⊢
    have hname : ∀ entry ∈ table.entries, entry.2 ≠ "__tags" := by
      intro entry hentry heq
      apply hown entry hentry
      rw [heq]
      exact List.mem_cons_self
    refine Plays.cons_silent (plays_declare "__tags" (.tagArray names)) ?_
    rintro t rfl
    have hbranch := outcome_addTags host hnames
      (s.locals_setLocal_self "__tags" (some (.ofTags names)))
      ((s.locals_setLocal_of_ne _ (by decide)).trans htags)
    refine Plays.single (.silent hbranch ?_ ?_)
    · split <;> rfl
    · have hready := h.setLocal hname (some (.ofTags names))
      split
      · rename_i hnone
        subst hnone
        refine ⟨hready, rfl, .var ?_⟩
        rw [List.append_nil, State.locals_setLocal_self]
      · refine ⟨hready.setLocal hname _, rfl, .var ?_⟩
        rw [State.locals_setLocal_self]

theorem plays_opening {hasBackground : Bool} {scenario : Scenario} {tags : List String}
    (h : Ready table value runner s)
    (hown : ∀ entry ∈ table.entries,
      entry.2 ∉ declaredNames (opening hasBackground (some table) scenario))
    (htags : s.locals exampleTags = some (.ofTags tags)) :
    Plays host (execAll host none (opening hasBackground (some table) scenario)) s
      (openingCalls hasBackground scenario tags s.created)
      (fun t => Ready table value runner t ∧ t.created = s.created + 1) := by
  have hopening : opening hasBackground (some table) scenario =
      (tagPreamble (some table) (scenario.tags.map (·.name))).1 ++
        (.declare scenarioInfoType "scenarioInfo"
            (some (.create scenarioInfoType [text scenario.name,
              (tagPreamble (some table) (scenario.tags.map (·.name))).2])) ::
          invokeThis scenarioSetupName [.var "scenarioInfo"] ::
          if hasBackground then [invokeThis backgroundName []] else []) := by
    simp [opening]
  rw [hopening, declaredNames_append] at hown
  have hownTags : ∀ entry ∈ table.entries,
      entry.2 ∉ declaredNames (tagPreamble (some table) (scenario.tags.map (·.name))).1 :=
    fun entry hentry hmem => hown entry hentry (List.mem_append_left _ hmem)
  have hname : ∀ entry ∈ table.entries, entry.2 ≠ "scenarioInfo" := by
    intro entry hentry heq
    apply hown entry hentry
    rw [heq]
    exact List.mem_append_right _ List.mem_cons_self
  rw [hopening]
  refine Plays.append_silent (plays_tagPreamble h hownTags htags) fun t ht => ?_
  obtain ⟨ht, htcreated, htvalue⟩ := ht
  refine Plays.cons_silent
    (plays_declare_create "scenarioInfo" (.cons (.text scenario.name) (.cons htvalue .nil))) ?_
  rintro u rfl
  have hu : Ready table value runner (State.setLocal { t with created := t.created + 1 }
      "scenarioInfo" (some (.object scenarioInfoType.name t.created
        [.text scenario.name, .ofTags (scenario.tags.map (·.name) ++ tags)]))) :=
    Ready.setLocal (s := { t with created := t.created + 1 }) ⟨ht.bound, ht.runner⟩ hname _
  rw [openingCalls, ← htcreated, ← List.singleton_append]
  refine Plays.cons (plays_invoke scenarioSetupName .this
    (.cons (.var (State.locals_setLocal_self ..)) .nil)) fun v huv => ?_
  cases hasBackground with
  | false => exact .nil ⟨hu.of_sameVariables huv, huv.created⟩
  | true =>
      refine (Plays.single (plays_invoke backgroundName .this .nil)).mono fun w hvw => ?_
      exact ⟨hu.of_sameVariables (huv.trans hvw), hvw.created.trans huv.created⟩

theorem plays_body {feature : Feature} {scenario : Scenario} {before : Nat}
    {statements : List Stmt} {tags : List String}
    (hbody : body feature.background.isSome (some table) before scenario = .ok statements)
    (hown : ∀ entry ∈ table.entries, entry.2 ∉ declaredNames statements)
    (h : Ready table value runner s) (hcreated : s.created = 0)
    (htags : s.locals exampleTags = some (.ofTags tags)) :
    Plays host (execAll host none statements) s
      (rowCalls runner (filled table value) feature scenario tags) (Ready table value runner) := by
  obtain ⟨emitted, hemitted, rfl⟩ := body_eq_ok.mp hbody
  simp only [declaredNames_append, List.mem_append, not_or] at hown
  have hopening : Plays host
      (execAll host none (opening feature.background.isSome (some table) scenario)) s
      (openingCalls feature.background.isSome scenario tags 0)
      (fun t => Ready table value runner t ∧ t.created = 1) := by
    have hplays : Plays host
        (execAll host none (opening feature.background.isSome (some table) scenario)) s
        (openingCalls feature.background.isSome scenario tags s.created)
        (fun t => Ready table value runner t ∧ t.created = s.created + 1) :=
      plays_opening h (fun entry hentry => (hown entry hentry).1.1) htags
    rwa [hcreated] at hplays
  have hsteps : ∀ t, Ready table value runner t ∧ t.created = 1 →
      Plays host (execAll host none emitted) t
        (allCalls runner (filled table value) 1 scenario.steps) (Ready table value runner) := by
    rintro t ⟨ht, htcreated⟩
    rw [← htcreated]
    exact plays_allStatements hemitted (fun entry hentry => (hown entry hentry).1.2) ht
  refine Plays.append (hopening.append hsteps) fun t ht => ?_
  refine (Plays.single (plays_invoke scenarioCleanupName .this .nil)).mono fun u htu => ?_
  exact ht.of_sameVariables htu

end Play

end TestClass

end Rehearsal
