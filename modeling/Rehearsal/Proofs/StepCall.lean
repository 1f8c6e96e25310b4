import Rehearsal.StepCall

namespace Rehearsal.StepCall

open Code Outline

-- A step as the generated code hands it to the runner.
structure View where
  method : String
  text : Expr
  docString : Option Expr
  -- The header, and the rows below it.
  table : Option (List Expr × List (List Expr))
  keyword : Expr

def View.ofStep (known : Option Placeholders) (step : Step) : View :=
  { method := step.role.word
    text := substituted known step.text
    docString :=
      match step.argument with
      | some (.docString value) => value.content.map fun content => substituted known (some content)
      | _ => none
    table :=
      match step.argument with
      | some (.table ⟨header :: body⟩) =>
          some (header.map (substituted known), body.map (·.map (substituted known)))
      | _ => none
    keyword := textOrNull step.keyword }

-- A table that was declared and not yet handed over.
structure OpenTable where
  name : String
  header : List Expr
  rows : List (List Expr) := []

def isTable (type : Slot TypeRef) : Bool := type.value? == some tableType

def notNull? : Expr → Option Expr
  | .cast _ (.literal .null) => none
  | value => some value

-- The table that a call hands over: the open one, or none if there is no open one.
def handed? : Option OpenTable → Expr → Option (Option (List Expr × List (List Expr)))
  | none, .cast _ (.literal .null) => some none
  | some table, .var name => if name = table.name then some (some (table.header, table.rows)) else none
  | _, _ => none

-- Reads statements back as steps. Nothing but declarations of tables, their rows and calls of the
-- runner may stand there, and no table may be left over.
def read : Option OpenTable → List Stmt → Option (List View)
  | none, [] => some []
  | some _, [] => none
  | none, .declare type name (some (.create created [.array _ header])) :: rest =>
      if isTable type && isTable created then read (some { name, header }) rest else none
  | some table, .eval (.call (.var name) "AddRow" [.array _ row]) :: rest =>
      if name = table.name then read (some { table with rows := table.rows ++ [row] }) rest
      else none
  | pending, .eval (.call (.field .this "testRunner") method [text, doc, table, keyword]) :: rest =>
      (handed? pending table).bind fun table =>
        (read none rest).map (⟨method, text, notNull? doc, table, keyword⟩ :: ·)
  | _, _ => none

variable {known : Option Placeholders}

theorem notNull?_substituted (content : Option String) :
    notNull? (substituted known content) =
      content.map fun value => substituted known (some value) := by
  cases content with
  | none => rfl
  | some value =>
      cases known with
      | none => rfl
      | some table =>
          simp only [substituted, Option.map_some]
          split <;> rfl

theorem read_callRunner (step : Step) (content : Option String) {pending : Option OpenTable}
    {table : Expr} {handed : Option (List Expr × List (List Expr))}
    (h : handed? pending table = some handed) (rest : List Stmt) :
    read pending (callRunner known step content table :: rest) =
      (read none rest).map
        ({ method := step.role.word, text := substituted known step.text
           docString := content.map fun value => substituted known (some value)
           table := handed, keyword := textOrNull step.keyword } :: ·) := by
  have hread : read pending (callRunner known step content table :: rest) =
      (handed? pending table).bind fun table => (read none rest).map
        (⟨step.role.word, substituted known step.text, notNull? (substituted known content), table,
          textOrNull step.keyword⟩ :: ·) := by
    cases pending <;> rfl
  rw [hread, h, notNull?_substituted]
  rfl

theorem read_rows (table : OpenTable) (body : List (List (Option String))) (rest : List Stmt) :
    read (some table) ((body.map fun row =>
        invoke (.var table.name) "AddRow" [substitutedArray known row]) ++ rest) =
      read (some { table with rows := table.rows ++ body.map (·.map (substituted known)) }) rest := by
  induction body generalizing table with
  | nil => simp
  | cons row more ih =>
      have hrow : ∀ others, read (some table)
          (invoke (.var table.name) "AddRow" [substitutedArray known row] :: others) =
          read (some { table with rows := table.rows ++ [row.map (substituted known)] }) others := by
        intro others
        simp [invoke, substitutedArray, stringArray, read]
      rw [List.map_cons, List.cons_append, hrow]
      have hmore := ih { table with rows := table.rows ++ [row.map (substituted known)] }
      simpa using hmore

theorem read_declareTable (name : String) (header : List (Option String))
    (body : List (List (Option String))) (rest : List Stmt) :
    read none (declareTable known name header body ++ rest) =
      read (some ⟨name, header.map (substituted known), body.map (·.map (substituted known))⟩) rest := by
  have hdeclare : ∀ others, read none
      (.declare tableType name (some (.create tableType [substitutedArray known header])) :: others) =
      read (some { name, header := header.map (substituted known) }) others := by
    intro others
    rfl
  rw [declareTable, List.cons_append, hdeclare]
  simpa using read_rows { name, header := header.map (substituted known) } body rest

theorem read_statements {before : Nat} {step : Step} {statements : List Stmt}
    (h : StepCall.statements known before step = .ok statements) (rest : List Stmt) :
    read none (statements ++ rest) = (read none rest).map (View.ofStep known step :: ·) := by
  obtain ⟨keyword, role, text, argument, line⟩ := step
  match argument with
  | none =>
      cases h
      exact read_callRunner _ none rfl rest
  | some (.docString value) =>
      cases h
      exact read_callRunner _ value.content rfl rest
  | some (.table ⟨header :: body⟩) =>
      cases h
      rw [List.append_assoc, read_declareTable]
      exact read_callRunner _ none (by simp [handed?]) rest
  | some (.table ⟨[]⟩) => cases h
  | some (.other _) => cases h

theorem allStatements_cons_eq_ok {before : Nat} {step : Step} {rest : List Step}
    {statements : List Stmt} :
    allStatements known before (step :: rest) = .ok statements ↔
      ∃ first others, StepCall.statements known before step = .ok first ∧
        allStatements known (before + step.tableCount) rest = .ok others ∧
        statements = first ++ others := by
  cases hfirst : StepCall.statements known before step with
  | error fault => simp [allStatements, hfirst, bind, Except.bind]
  | ok first =>
      cases hothers : allStatements known (before + step.tableCount) rest with
      | error fault => simp [allStatements, hfirst, hothers, bind, Except.bind]
      | ok others =>
          simp [allStatements, hfirst, hothers, bind, Except.bind, pure, Except.pure, eq_comm]

-- The statements of steps read back as these steps, in order.
theorem read_allStatements {before : Nat} {steps : List Step} {statements : List Stmt}
    (h : allStatements known before steps = .ok statements) :
    read none statements = some (steps.map (View.ofStep known)) := by
  induction steps generalizing before statements with
  | nil =>
      cases h
      rfl
  | cons step rest ih =>
      obtain ⟨first, others, hfirst, hothers, rfl⟩ := allStatements_cons_eq_ok.mp h
      rw [read_statements hfirst, ih hothers]
      rfl

mutual

-- The variables for tables that a statement declares, at any depth.
def tablesIn : Stmt → List String
  | .declare type name _ => if isTable type then [name] else []
  | .loop init _ increment body => tablesIn init ++ tablesIn increment ++ tablesInAll body
  | .guarded body handlers => tablesInAll body ++ tablesInHandlers handlers
  | .branch _ yes no => tablesInAll yes ++ tablesInAll no
  | _ => []

def tablesInAll : List Stmt → List String
  | [] => []
  | statement :: rest => tablesIn statement ++ tablesInAll rest

def tablesInHandlers : List Handler → List String
  | [] => []
  | .mk _ _ body :: rest => tablesInAll body ++ tablesInHandlers rest
  | .foreign _ :: rest => tablesInHandlers rest

end

@[simp] theorem tablesIn_invoke (target : Expr) (method : String) (arguments : List Expr) :
    tablesIn (invoke target method arguments) = [] := rfl

theorem tablesInAll_append (front back : List Stmt) :
    tablesInAll (front ++ back) = tablesInAll front ++ tablesInAll back := by
  induction front with
  | nil => rfl
  | cons statement rest ih => simp [tablesInAll, ih]

theorem tablesInAll_rows (name : String) (body : List (List (Option String))) :
    tablesInAll (body.map fun row => invoke (.var name) "AddRow" [substitutedArray known row]) =
      [] := by
  induction body with
  | nil => rfl
  | cons row rest ih => simp [tablesInAll, ih]

theorem tableCount_append (front back : List Step) :
    tableCount (front ++ back) = tableCount front + tableCount back := by
  induction front with
  | nil => simp [tableCount]
  | cons step rest ih => simp [tableCount, ih, Nat.add_assoc]

-- The names that come after a number of tables.
def tableNames (before count : Nat) : List String :=
  (List.range count).map fun i => tableName (before + i + 1)

theorem tableNames_add (before first others : Nat) :
    tableNames before (first + others) =
      tableNames before first ++ tableNames (before + first) others := by
  simp [tableNames, List.range_add, Nat.add_assoc]

theorem tablesInAll_statements {before : Nat} {step : Step} {statements : List Stmt}
    (h : StepCall.statements known before step = .ok statements) :
    tablesInAll statements = tableNames before step.tableCount := by
  obtain ⟨keyword, role, text, argument, line⟩ := step
  match argument with
  | none =>
      cases h
      rfl
  | some (.docString value) =>
      cases h
      rfl
  | some (.table ⟨header :: body⟩) =>
      cases h
      have htable : isTable tableType := by decide
      simp [declareTable, tablesInAll_append, tablesInAll, tablesIn, tablesInAll_rows, callRunner,
        Runner.call, Step.tableCount, tableNames, htable]
  | some (.table ⟨[]⟩) => cases h
  | some (.other _) => cases h

theorem tablesInAll_allStatements {before : Nat} {steps : List Step} {statements : List Stmt}
    (h : allStatements known before steps = .ok statements) :
    tablesInAll statements = tableNames before (tableCount steps) := by
  induction steps generalizing before statements with
  | nil =>
      cases h
      rfl
  | cons step rest ih =>
      obtain ⟨first, others, hfirst, hothers, rfl⟩ := allStatements_cons_eq_ok.mp h
      rw [tablesInAll_append, tablesInAll_statements hfirst, ih hothers, tableCount, tableNames_add]

end Rehearsal.StepCall
