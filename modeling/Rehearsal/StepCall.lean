import Rehearsal.Feature.Basic
import Rehearsal.Outline.Placeholder
import Rehearsal.Runner

namespace Rehearsal

open Code Outline

-- Why a step cannot be handed to the runner.
inductive StepCall.Fault where
  | argument
  | emptyTable
  deriving DecidableEq, Repr

def StepCall.Fault.message : StepCall.Fault → String
  | .argument => "The step argument must be a doc string or a data table."
  | .emptyTable => "The table has no header."

-- The number of table variables that a step takes up.
def Step.tableCount (step : Step) : Nat :=
  match step.argument with
  | some (.table _) => 1
  | _ => 0

def tableCount : List Step → Nat
  | [] => 0
  | step :: rest => step.tableCount + tableCount rest

namespace StepCall

def tableType : TypeRef := ⟨"Table", 0⟩

def tableName (number : Nat) : String := "table" ++ toString number

-- A variable for the table, built from its header, and a call for each further row.
def declareTable (known : Option Placeholders) (name : String)
    (header : List (Option String)) (body : List (List (Option String))) : List Stmt :=
  .declare tableType name (some (.create tableType [substitutedArray known header])) ::
    body.map fun row => invoke (.var name) "AddRow" [substitutedArray known row]

def callRunner (known : Option Placeholders) (step : Step) (content : Option String)
    (table : Expr) : Stmt :=
  Runner.call step.role.word
    [substituted known step.text, substituted known content, table, textOrNull step.keyword]

-- The statements of a step, given the number of tables before it.
def statements (known : Option Placeholders) (before : Nat) (step : Step) :
    Except Fault (List Stmt) :=
  match step.argument with
  | none => .ok [callRunner known step none (nullOf tableType)]
  | some (.docString doc) => .ok [callRunner known step doc.content (nullOf tableType)]
  | some (.table ⟨header :: body⟩) =>
      let name := tableName (before + 1)
      .ok (declareTable known name header body ++ [callRunner known step none (.var name)])
  | some (.table ⟨[]⟩) => .error .emptyTable
  | some (.other _) => .error .argument

def allStatements (known : Option Placeholders) (before : Nat) :
    List Step → Except Fault (List Stmt)
  | [] => .ok []
  | step :: rest => do
      let first ← statements known before step
      let others ← allStatements known (before + step.tableCount) rest
      return first ++ others

end StepCall

end Rehearsal
