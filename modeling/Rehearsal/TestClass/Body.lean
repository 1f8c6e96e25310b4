import Rehearsal.StepCall
import Rehearsal.TestClass.Lifecycle

namespace Rehearsal.TestClass

open Code Outline

def exampleTags : String := "exampleTags"

def mergedTags : Expr := .var "__tags"

-- An outline takes the tags of the examples as a parameter and adds them to its own.
def joinTags (tags : List String) : List Stmt :=
  [.declare stringArrayType "__tags" (some (tagArray tags)),
   .branch (.binary (.var exampleTags) .distinct nullLiteral)
     [.assign mergedTags (.concat mergedTags (.var exampleTags))] []]

-- Statements that come before the scenario's tags can be used, and the tags.
def tagPreamble (known : Option Placeholders) (tags : List String) : List Stmt × Expr :=
  match known with
  | none => ([], tagArray tags)
  | some _ => if tags.isEmpty then ([], .var exampleTags) else (joinTags tags, mergedTags)

-- What precedes the steps: the scenario is announced, then the background runs.
def opening (hasBackground : Bool) (known : Option Placeholders) (scenario : Scenario) :
    List Stmt :=
  let (joined, tags) := tagPreamble known (scenario.tags.map (·.name))
  joined ++
    [.declare scenarioInfoType "scenarioInfo"
       (some (.create scenarioInfoType [text scenario.name, tags])),
     invokeThis scenarioSetupName [.var "scenarioInfo"]] ++
    if hasBackground then [invokeThis backgroundName []] else []

-- The body of a scenario, given the number of tables in the class before it. An outline has
-- placeholders.
def body (hasBackground : Bool) (known : Option Placeholders) (before : Nat)
    (scenario : Scenario) : Except StepCall.Fault (List Stmt) := do
  let steps ← StepCall.allStatements known before scenario.steps
  return opening hasBackground known scenario ++ steps ++ [invokeThis scenarioCleanupName []]

def background (given : Background) : Except StepCall.Fault Method := do
  let statements ← StepCall.allStatements none 0 given.steps
  return { name := backgroundName, statements }

end Rehearsal.TestClass
