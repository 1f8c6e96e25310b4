import Rehearsal.Code.Build
import Rehearsal.TagPolicy
import Rehearsal.Text.Case

namespace Rehearsal

open Code

-- What a test framework can do.
structure Traits where
  rowTests : Bool := false
  parallel : Bool := false
  deriving DecidableEq, Repr

def Traits.flags (traits : Traits) : Nat :=
  (if traits.rowTests then 1 else 0) + if traits.parallel then 2 else 0

-- A row test as the framework is told about it: first the method, then each row.
inductive RowEvent where
  | test (method friendlyName : String)
  | row (method : String) (arguments : List (Option String)) (tags : List String)
      (ignored : Bool)
  deriving DecidableEq, Repr

-- A test framework that classes are generated for. One that is a mere contract refuses every
-- request, and one that takes no rows refuses those.
structure Framework where
  name : String
  traits : Traits := {}
  isContract : Bool := false
  takesRows : Bool := false
  deriving DecidableEq, Repr

def skipAttribute : Attribute := { name := "unittest.skip", arguments := [text "Ignored"] }

def categoryAttribute (categories : List String) : Attribute :=
  { name := "category", arguments := categories.map text }

def classMethodAttribute : Attribute := { name := "classmethod" }

-- A skip for each tag that asks for one, then the categories if there are any.
def Decoration.attributes (decoration : Decoration) : List (Slot Attribute) :=
  List.replicate decoration.skips (.of skipAttribute) ++
    if decoration.categories.isEmpty then [] else [.of (categoryAttribute decoration.categories)]

def frameworkImport : Import := { name := "unittest" }

-- A test class derives from the framework's test case. It is described by the feature's
-- description, or by its title where there is none.
def Code.ClassDecl.asTestCase (c : ClassDecl) (title description : Option String) : ClassDecl :=
  { c with
    bases := c.bases ++ [.of (typeNamed "unittest.TestCase")]
    description := if description.getD "" = "" then title else description }

def Code.ClassDecl.mark (c : ClassDecl) (attributes : List (Slot Attribute)) : ClassDecl :=
  { c with attributes := c.attributes ++ attributes }

def Code.Method.mark (m : Method) (attributes : List (Slot Attribute)) : Method :=
  { m with attributes := m.attributes ++ attributes }

-- The names of the methods that frame the tests of a class.
structure Frame where
  classSetup : String
  classCleanup : String
  testSetup : String
  testCleanup : String
  deriving DecidableEq, Repr

def publish (name target : String) : Member :=
  .field { type := none, name, init := some (.var target) }

-- The names under which the framework finds the framing methods and the tests.
def aliases (frame : Frame) (tests : List String) : List Member :=
  [publish "setUpClass" frame.classSetup, publish "tearDownClass" frame.classCleanup,
   publish "setUp" frame.testSetup, publish "tearDown" frame.testCleanup] ++
    tests.map fun name => publish ("test_" ++ name) name

namespace Framework

def contract : Framework := { name := "UnitTestGeneratorProvider", isContract := true }

def unittest : Framework := { name := "UnittestGeneratorProvider" }

-- The frameworks by name. Case does not count.
def named? (name : String) : Option Framework :=
  if lowered name = "unittest" then some unittest else none

-- Whether the framework does what it is asked.
def grant (framework : Framework) : Except Unsupported Unit :=
  if framework.isContract then .error {} else .ok ()

def grantRows (framework : Framework) : Except Unsupported Unit := do
  framework.grant
  if framework.takesRows then .ok () else .error { message := "unittest has no row tests" }

end Framework

end Rehearsal
