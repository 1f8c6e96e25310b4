import Rehearsal.Feature.Basic
import Rehearsal.Log.Basic
import Rehearsal.Numeral
import Rehearsal.TagName

namespace Rehearsal.Retry

def countTag : String := "Retry"

def sparedTag : String := "RetryExcept"

-- How often a failed scenario is tried again, and the exception that ends the attempts.
structure Directive where
  count : Nat
  spared : Option String := none
  deriving DecidableEq, Repr

def count? (value : String) : Option Nat :=
  match Numeral.read? (Text.trim value.toList) with
  | some (.ofNat n) => some n
  | _ => none

def exceptionName? (value : String) : Option String :=
  let name := trimmed value
  if name.isEmpty then none else some name

-- Where a directive may stand.
structure Scope where
  kind : String
  owner : String
  tags : List Tag

-- The scenario comes before its feature.
def scopes (scenario : Scenario) (feature : Option Feature) : List Scope :=
  ⟨"scenario", scenario.name, scenario.tags⟩ ::
    match feature with
    | none => []
    | some feature => [⟨"feature", feature.name, feature.tags⟩]

-- Every value of a directive with the scope that it comes from.
def candidates (tag : String) (scopes : List Scope) : List (Scope × String) :=
  scopes.flatMap fun scope => (TagName.values tag (scope.tags.map (·.name))).map (scope, ·)

def rejection (tag : String) (scope : Scope) (value : String) : String :=
  "Ignoring @" ++ tag ++ ":" ++ value ++ " on " ++ scope.kind ++ " '" ++ scope.owner ++
    "': value cannot be parsed"

-- The first value that can be read. Those before it are reported.
def choose {ε α : Type} (tag : String) (read? : String → Option α) :
    List (Scope × String) → Run ε (Option α)
  | [] => pure none
  | (scope, value) :: rest =>
      match read? value with
      | some a => pure (some a)
      | none => do
          Run.warn (rejection tag scope value)
          choose tag read? rest

def announcement (scenario : String) (directive : Directive) : String :=
  "Scenario '" ++ scenario ++ "' retries " ++ toString directive.count ++ " time(s)" ++
    match directive.spared with
    | some name => ", except on " ++ name
    | none => ""

-- The exception is looked for only once there is a count.
def resolve {ε : Type} (scenario : Scenario) (feature : Option Feature) :
    Run ε (Option Directive) := do
  let scopes := scopes scenario feature
  match ← choose countTag count? (candidates countTag scopes) with
  | none => return none
  | some count =>
      let spared ← choose sparedTag exceptionName? (candidates sparedTag scopes)
      let directive : Directive := { count, spared }
      Run.debug (announcement scenario.name directive)
      return some directive

-- Directives, bare or with a value, are no categories.
def isTag (name : String) : Bool :=
  TagName.isDirective countTag name || TagName.isDirective sparedTag name

end Rehearsal.Retry
