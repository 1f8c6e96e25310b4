namespace Rehearsal

-- Whether tagged scenarios are tried again.
inductive Kind where
  | plain
  | retry
  deriving DecidableEq, Repr

namespace Kind

def name : Kind → String
  | .plain => "unit_test"
  | .retry => "retry"

def all : List Kind := [.plain, .retry]

end Kind

inductive Language where
  | python
  deriving DecidableEq, Repr

namespace Language

def name : Language → String
  | .python => "python"

-- The language as the generated code refers to it.
def constant : Language → String
  | .python => "PYTHON"

def all : List Language := [.python]

end Language

-- What the generated test classes depend on.
structure Settings where
  kind : Kind := .retry
  framework : String := "unittest"
  rowTests : Bool := true
  debugFiles : Bool := false
  defaultNamespace : String := "SpecFlowTests"
  runtimeNamespace : String := "specflow"
  language : Language := .python
  deriving DecidableEq, Repr

end Rehearsal
