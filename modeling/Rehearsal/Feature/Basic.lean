namespace Rehearsal

structure Tag where
  name : String
  line : Nat := 0
  deriving DecidableEq, Repr

-- The part that a step plays in its scenario.
inductive Role where
  | given
  | action
  | outcome
  | also
  | but
  deriving DecidableEq, Repr

namespace Role

def word : Role → String
  | .given => "Given"
  | .action => "When"
  | .outcome => "Then"
  | .also => "And"
  | .but => "But"

def all : List Role := [.given, .action, .outcome, .also, .but]

def ofWord? (word : String) : Option Role := all.find? (·.word == word)

end Role

-- Texts of a feature that was built by hand may be missing.
structure DocString where
  content : Option String
  contentType : Option String := none
  deriving DecidableEq, Repr

structure DataTable where
  rows : List (List (Option String))
  deriving DecidableEq, Repr

-- What a step hands over besides its text. A feature that was built by hand may put something
-- there that is neither of the two kinds.
inductive Argument where
  | docString (value : DocString)
  | table (value : DataTable)
  | other (kind : String)
  deriving DecidableEq, Repr

structure Step where
  keyword : Option String
  role : Role
  text : Option String
  argument : Option Argument := none
  line : Nat := 0
  deriving DecidableEq, Repr

structure Examples where
  name : String := ""
  tags : List Tag := []
  header : Option (List (Option String)) := none
  rows : List (List (Option String)) := []
  line : Nat := 0
  deriving DecidableEq, Repr

structure Scenario where
  name : String
  steps : List Step := []
  tags : List Tag := []
  description : String := ""
  examples : List Examples := []
  line : Nat := 0
  deriving DecidableEq, Repr

structure Background where
  name : String := ""
  steps : List Step := []
  description : String := ""
  line : Nat := 0
  deriving DecidableEq, Repr

structure Feature where
  name : String
  description : Option String := some ""
  scenarios : List Scenario := []
  tags : List Tag := []
  background : Option Background := none
  language : Option String := some "en"
  path : String := ""
  deriving DecidableEq, Repr

-- A scenario with examples is an outline.
def Scenario.isOutline (scenario : Scenario) : Bool := !scenario.examples.isEmpty

end Rehearsal
