import Rehearsal.Log.Basic
import Rehearsal.Numeral
import Rehearsal.Runner

namespace Rehearsal.Retry

open Code

def innerSuffix : String := "Internal"

def lastException : Expr := .var "lastException"

def counter : Expr := .var "i"

def counterPlusOne : Expr := .binary counter .plus (int 1)

-- A spared exception is thrown on, any other one is kept for the next attempt.
def handlers (spared : Option String) : List Handler :=
  let keep := Handler.mk "exc" exceptionType [.assign lastException (.var "exc")]
  match spared with
  | some name => if name.isEmpty then [keep] else [.mk "exc" (typeNamed name) [.throw none], keep]
  | none => [keep]

-- The parameters of a method, handed on by name.
def passedOn (parameters : List (Slot Parameter)) : List Expr :=
  parameters.filterMap fun p => p.value?.map fun p => .var p.name

def attempt (inner : Method) (spared : Option String) : Stmt :=
  .guarded [invokeThis inner.name (passedOn inner.parameters), .leave none] (handlers spared)

-- Tries the inner method once more than the count says. Between two attempts the runner closes
-- the scenario, and after the last one its exception is thrown.
def loop (inner : Method) (count : Int) (spared : Option String) : List Stmt :=
  [.declare exceptionType "lastException" (some nullLiteral),
   .loop (.declare intType "i" (some (int 0)))
     (.binary counter .atMost (int count))
     (.assign counter counterPlusOne)
     [attempt inner spared,
      .branch (.binary counterPlusOne .atMost (int count)) [Runner.call "OnScenarioEnd" []] []],
   .branch (.binary lastException .distinct nullLiteral) [.throw (some lastException)] []]

-- The number of attempts is too long to be written.
structure Oversized where
  deriving DecidableEq, Repr

-- The method with the loop for its body, and the inner method that takes the scenario's body.
def wrap (method : Method) (count : Int) (spared : Option String) :
    Run Oversized (Method × Method) := do
  let inner : Method := { name := method.name ++ innerSuffix, parameters := method.parameters }
  match Numeral.write? (count + 1) with
  | none => Run.fail {}
  | some attempts =>
      Run.debug
        ("Wrapped " ++ method.name ++ " in a retry loop of " ++ attempts ++ " attempt(s)")
      return ({ method with statements := method.statements ++ loop inner count spared }, inner)

end Rehearsal.Retry
