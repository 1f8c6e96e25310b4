namespace Rehearsal

-- Why a text is no feature document.
inductive Feature.Fault where
  | openDocString
  | noFeature
  | invalidTag (token : String)
  | secondFeature
  | beforeFeature (keyword : String)
  | misplacedBackground
  | strayExamples (keyword : String)
  | strayStep
  | strayTable
  | strayDocString
  | unevenExamples
  | unevenTable
  | tableAfterDocString
  | openRow
  | unexpectedLine (line : String)
  deriving DecidableEq, Repr

namespace Feature.Fault

def message : Fault → String
  | .openDocString => "Doc string is not terminated"
  | .noFeature => "No 'Feature:' found"
  | .invalidTag token => "Invalid tag: " ++ token
  | .secondFeature => "Only one 'Feature:' is allowed per file"
  | .beforeFeature keyword => "'" ++ keyword ++ ":' found before 'Feature:'"
  | .misplacedBackground => "'Background:' must come once, before the scenarios"
  | .strayExamples keyword => "'" ++ keyword ++ ":' must follow a scenario outline"
  | .strayStep => "Steps must belong to a background or a scenario"
  | .strayTable => "A table must follow a step or an examples header"
  | .strayDocString => "A doc string must directly follow a step"
  | .unevenExamples => "Inconsistent cell count within the examples table"
  | .unevenTable => "Inconsistent cell count within the table"
  | .tableAfterDocString => "A step cannot have both a doc string and a table"
  | .openRow => "Table row must end with '|'"
  | .unexpectedLine line => "Unexpected line: " ++ line

end Feature.Fault

-- A text without a file is shown as such. Line zero stands for the whole text.
def located (path : String) (line : Int) (message : String) : String :=
  let place := if path.isEmpty then "<text>" else path
  (if line = 0 then place else place ++ ":" ++ toString line) ++ ": " ++ message

-- A fault with the file and the line where it shows.
structure Feature.ParseError where
  fault : Feature.Fault
  path : String
  line : Nat
  deriving DecidableEq, Repr

def Feature.ParseError.message (error : Feature.ParseError) : String :=
  located error.path error.line error.fault.message

end Rehearsal
