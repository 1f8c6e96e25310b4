import Rehearsal.Text.Case

namespace Rehearsal.Log

-- The name of a numeric level.
def levelName (level : Int) : String :=
  if level = 0 then "NOTSET"
  else if level = 10 then "DEBUG"
  else if level = 20 then "INFO"
  else if level = 30 then "WARNING"
  else if level = 40 then "ERROR"
  else if level = 50 then "CRITICAL"
  else "Level " ++ toString level

def cyan : String := "\x1b[36m"
def green : String := "\x1b[32m"
def yellow : String := "\x1b[33m"
def red : String := "\x1b[31m"
def bright : String := "\x1b[1m"
def reset : String := "\x1b[0m"

def colour? (name : String) : Option String :=
  [("DEBUG", cyan), ("INFO", green), ("WARNING", yellow), ("ERROR", red),
   ("CRITICAL", red ++ bright)].lookup name

-- The line of the console for an entry. Known level names are coloured.
def format (level logger message : String) : String :=
  let shown := match colour? level with
    | some colour => colour ++ level ++ reset
    | none => level
  shown ++ " " ++ logger ++ ": " ++ message

-- Why a name asks for no level: it denotes a constant of another kind, a text or a table.
inductive LevelFault where
  | text
  | table
  deriving DecidableEq, Repr

def levelOf (name : String) : Except LevelFault Nat :=
  if name = "BASIC_FORMAT" then .error .text
  else if name = "_STYLES" then .error .table
  else
    .ok (([("NOTSET", 0), ("DEBUG", 10), ("INFO", 20), ("WARN", 30), ("WARNING", 30),
      ("ERROR", 40), ("FATAL", 50), ("CRITICAL", 50)].lookup name).getD 20)

-- The numeric level that a name asks for. A missing or empty name leaves the choice to the
-- environment, and an unknown name means the level of plain information.
def threshold (requested environment : Option String) : Except LevelFault Nat :=
  let name := match requested with
    | some name => if name.isEmpty then environment.getD "INFO" else name
    | none => environment.getD "INFO"
  levelOf (uppered name)

end Rehearsal.Log
