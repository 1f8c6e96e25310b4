import Rehearsal.Text.Blank
import Rehearsal.Text.Case
import Rehearsal.Text.Digit
import Rehearsal.Text.Word

namespace Rehearsal.Identifier

def capitalized : List Char → List Char
  | [] => []
  | c :: rest => Text.upperChar c ++ rest

-- The words of a text, each with a capital, run together. An underscore stands in front of a
-- digit and for a text without words.
def pascalChars (text : List Char) : List Char :=
  match (Text.runs Text.isWordChar text).flatMap capitalized with
  | [] => ['_']
  | c :: rest => if Text.isDigit c then '_' :: c :: rest else c :: rest

def camelChars (text : List Char) : List Char :=
  match pascalChars text with
  | [] => []
  | c :: rest => if c == '_' then c :: rest else Text.lowerChar c ++ rest

-- "my scenario" becomes "MyScenario".
def pascal (text : String) : String := String.ofList (pascalChars text.toList)

-- "user name" becomes "userName".
def camel (text : String) : String := String.ofList (camelChars text.toList)

-- The identifier without the underscores that it starts with.
def bare (text : String) : String := String.ofList ((pascalChars text.toList).dropWhile (· == '_'))

def unfitForFile (c : Char) : Bool :=
  Text.isBlank c || c ∈ ['<', '>', ':', '"', '/', '\\', '|', '?', '*']

-- A file name for a text: lower case, underscores for what file names cannot hold.
def fileName (text : String) : String :=
  String.ofList (Text.lower ((Text.trim text.toList).map fun c =>
    if unfitForFile c then '_' else c))

end Rehearsal.Identifier
