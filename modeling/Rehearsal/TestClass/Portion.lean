import Rehearsal.Outline.Variant
import Rehearsal.Retry.Loop
import Rehearsal.TestClass.Body
import Rehearsal.TestClass.Fault

namespace Rehearsal.TestClass

open Code Outline

-- Everything that a test class depends on besides its feature.
structure Generator where
  settings : Settings
  framework : Framework
  policies : List TagPolicy

namespace Generator

def retries (g : Generator) : Bool := g.settings.kind = .retry

-- Row tests need a framework that has them and settings that allow them.
def usesRows (g : Generator) : Bool := g.framework.traits.rowTests && g.settings.rowTests

end Generator

-- What a scenario adds to its class: methods, which of them are tests, and rows of row tests.
structure Portion where
  methods : List Method := []
  tests : List String := []
  rows : List RowEvent := []
  deriving BEq, Repr

def decorated (g : Generator) (tags : List Tag) : Run Fault (List (Slot Attribute)) := do
  let decoration ← (TagPolicy.decorate g.policies (tags.map (·.name))).mapError .unsupported
  return decoration.attributes

def bodyOf (feature : Feature) (known : Option Placeholders) (before : Nat)
    (scenario : Scenario) : Run Fault (List Stmt) :=
  (Run.ofExcept (body feature.background.isSome known before scenario)).mapError .step

def directive (g : Generator) (feature : Feature) (scenario : Scenario) :
    Run Fault (Option Retry.Directive) :=
  if g.retries then Retry.resolve scenario (some feature) else pure none

-- A scenario is one test. One that is retried has its body in an inner method.
def plain (g : Generator) (feature : Feature) (before : Nat) (scenario : Scenario) :
    Run Fault Portion := do
  let directive ← directive g feature scenario
  let attributes ← decorated g scenario.tags
  let test : Method :=
    { name := methodName scenario, description := some scenario.name, attributes }
  match directive with
  | none =>
      let statements ← bodyOf feature none before scenario
      return { methods := [{ test with statements }], tests := [test.name] }
  | some directive =>
      let (outer, inner) ←
        (Retry.wrap test directive.count directive.spared).mapError fun _ => .oversizedCount
      let statements ← bodyOf feature none before scenario
      return { methods := [outer, { inner with statements }], tests := [test.name] }

-- The columns of an outline's examples. All sets must have the same.
def columns (scenario : Scenario) : Except Fault (List (Option String)) :=
  let headers := scenario.examples.map (·.header)
  if headers.contains none then .error (.noHeader scenario.name)
  else
    match headers.filterMap id with
    | [] => .ok []
    | first :: others =>
        if others.all (· == first) then .ok first
        else .error (.unequalHeaders scenario.name)

def placeholders (columns : List String) : Placeholders :=
  columns.foldl (fun table column => table.add column (Identifier.camel column)) {}

def placeholdersOf (columns : List (Option String)) : Except Fault Placeholders :=
  match columns.mapM id with
  | some columns => .ok (placeholders columns)
  | none => .error .unnamedColumn

-- One parameter for each placeholder, then the tags of the examples.
def outlineParameters (known : Placeholders) : List (Slot Parameter) :=
  known.entries.map (fun entry => .of ⟨stringType, entry.2⟩) ++
    [.of ⟨stringArrayType, exampleTags⟩]

-- The method that all variants of an outline call.
def template (known : Placeholders) (scenario : Scenario) (statements : List Stmt) : Method :=
  { name := methodName scenario, parameters := outlineParameters known, statements }

def variant (g : Generator) (scenario : Scenario) (examples : Examples)
    (set : Option String) (name : String) (row : List (Option String)) : Run Fault Method := do
  let attributes ← decorated g (scenario.tags ++ examples.tags)
  return {
    name := variantMethodName scenario set name
    description := some (scenario.name ++ ": " ++ name)
    attributes
    statements :=
      [invokeThis (methodName scenario)
        (row.map textOrNull ++ [tagArray (examples.tags.map (·.name))])] }

def namesOf (examples : Examples) : Except Fault (List String) :=
  match examples.rows.mapM firstCell? with
  | some first => .ok (variantNames first)
  | none => .error .unnamedRow

def variantsOf (g : Generator) (scenario : Scenario) (examples : Examples)
    (set : Option String) : Run Fault (List Method) := do
  let names ← Run.ofExcept (namesOf examples)
  (names.zip examples.rows).mapM fun (name, row) => variant g scenario examples set name row

def variants (g : Generator) (scenario : Scenario) : Run Fault (List Method) := do
  let sets := scenario.examples.zip (setIdentifiers scenario.examples)
  let methods ← sets.mapM fun (examples, set) => variantsOf g scenario examples set
  return methods.flatten

-- A template, and a test for each row that calls it.
def expanded (g : Generator) (feature : Feature) (before : Nat) (known : Placeholders)
    (scenario : Scenario) : Run Fault Portion := do
  let statements ← bodyOf feature (some known) before scenario
  let variants ← variants g scenario
  return {
    methods := template known scenario statements :: variants
    tests := variants.map (·.name) }

def rowEvents (scenario : Scenario) : List RowEvent :=
  .test (methodName scenario) scenario.name ::
    scenario.examples.flatMap fun examples =>
      let tags := examples.tags.map (·.name)
      examples.rows.map fun row =>
        .row (methodName scenario) row tags (TagName.anyMatch "ignore" tags)

-- One method, which the framework runs for each row.
def rowTest (g : Generator) (feature : Feature) (before : Nat) (known : Placeholders)
    (scenario : Scenario) : Run Fault Portion := do
  (Run.ofExcept g.framework.grantRows).mapError .unsupported
  let attributes ← decorated g scenario.tags
  let statements ← bodyOf feature (some known) before scenario
  return {
    methods := [{ template known scenario statements with attributes }]
    rows := rowEvents scenario }

def noRetryForOutline (scenario : String) : String :=
  "Retry tags are not supported on scenario outlines, '" ++ scenario ++
    "' is generated without retries"

def outline (g : Generator) (feature : Feature) (before : Nat) (scenario : Scenario) :
    Run Fault Portion := do
  let columns ← Run.ofExcept (columns scenario)
  let directive ← directive g feature scenario
  if directive.isSome then Run.warn (noRetryForOutline scenario.name)
  let known ← Run.ofExcept (placeholdersOf columns)
  if g.usesRows then rowTest g feature before known scenario
  else expanded g feature before known scenario

def portion (g : Generator) (feature : Feature) (before : Nat) (scenario : Scenario) :
    Run Fault Portion :=
  if scenario.name.isEmpty then Run.fail .untitled
  else if scenario.isOutline then outline g feature before scenario
  else plain g feature before scenario

-- Tables are numbered through the whole class.
def portions (g : Generator) (feature : Feature) (before : Nat) :
    List Scenario → Run Fault (List Portion)
  | [] => pure []
  | scenario :: rest => do
      let first ← portion g feature before scenario
      let others ← portions g feature (before + tableCount scenario.steps) rest
      return first :: others

end Rehearsal.TestClass
