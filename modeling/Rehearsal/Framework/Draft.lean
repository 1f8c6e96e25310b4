import Rehearsal.Framework

namespace Rehearsal

open Code

-- A test class under construction.
structure Draft where
  imports : List (Slot Import) := []
  shell : ClassDecl
  frame : Frame
  -- Attributes of the methods that set up and clean up the class.
  classSetup : List (Slot Attribute) := []
  classCleanup : List (Slot Attribute) := []
  -- The methods that are tests, in order.
  tests : List String := []
  deriving BEq, Repr

-- What a framework may be asked to do with a draft. Some requests are about one method.
inductive Request where
  | openClass (title description : Option String)
  | categorizeClass (categories : List String)
  | skipClass
  | setUpClass
  | cleanUpClass
  | setUpTest
  | cleanUpTest
  | describeTest (method : String) (friendlyName : Option String)
  | categorizeTest (method : String) (categories : List String)
  | skipTest (method : String)
  | rowTest
  | row
  | finish
  deriving DecidableEq, Repr

def updateFirst (name : String) (f : Method → Method) : List Member → List Member
  | [] => []
  | .method m :: rest =>
      if m.name = name then .method (f m) :: rest else .method m :: updateFirst name f rest
  | member :: rest => member :: updateFirst name f rest

-- Changes the method that was added last under a name.
def updateMethod (name : String) (f : Method → Method) (members : List Member) : List Member :=
  (updateFirst name f members.reverse).reverse

namespace Draft

def update (draft : Draft) (method : String) (f : Method → Method) : Draft :=
  { draft with
    shell := { draft.shell with members := updateMethod method f draft.shell.members } }

def push (draft : Draft) (member : Member) : Draft :=
  { draft with shell := draft.shell.push member }

-- A method that is missing is added without a body.
def ensure (draft : Draft) (method : String) : Draft :=
  if (draft.shell.method? method).isSome then draft else draft.push (.method { name := method })

def require (draft : Draft) (i : Slot Import) : Draft :=
  if draft.imports.contains i then draft else { draft with imports := draft.imports ++ [i] }

-- What a request comes to where it is granted.
def apply (draft : Draft) : Request → Draft
  | .openClass title description =>
      { draft.require frameworkImport with shell := draft.shell.asTestCase title description }
  | .categorizeClass categories =>
      { draft with shell := draft.shell.mark [categoryAttribute categories] }
  | .skipClass => { draft with shell := draft.shell.mark [skipAttribute] }
  | .setUpClass => { draft with classSetup := draft.classSetup ++ [.of classMethodAttribute] }
  | .cleanUpClass => { draft with classCleanup := draft.classCleanup ++ [.of classMethodAttribute] }
  | .describeTest method friendlyName =>
      { draft.update method fun m => { m with description := friendlyName } with
        tests := draft.tests ++ [method] }
  | .categorizeTest method categories =>
      draft.update method fun m => m.mark [categoryAttribute categories]
  | .skipTest method => draft.update method fun m => m.mark [skipAttribute]
  | .finish =>
      { draft with
        shell := { draft.shell with
          members := draft.shell.members ++ aliases draft.frame draft.tests } }
  | .setUpTest | .cleanUpTest | .rowTest | .row => draft

end Draft

-- A contract has nothing to finish, so it only leaves the draft as it is.
def Framework.fulfil (framework : Framework) (draft : Draft) (request : Request) :
    Except Unsupported Draft :=
  match request with
  | .finish => .ok (if framework.isContract then draft else draft.apply .finish)
  | .rowTest | .row => do
      framework.grantRows
      return draft.apply request
  | _ => do
      framework.grant
      return draft.apply request

end Rehearsal
