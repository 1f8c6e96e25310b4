import Rehearsal.StepCall
import Rehearsal.TagPolicy

namespace Rehearsal.TestClass

-- Why there is no test class for a feature.
inductive Fault where
  | untitled
  | noHeader (scenario : String)
  | unequalHeaders (scenario : String)
  | step (fault : StepCall.Fault)
  | unsupported (cause : Unsupported)
  | oversizedCount
  | unnamedColumn
  | unnamedRow
  deriving DecidableEq, Repr

def Fault.message : Fault → String
  | .untitled => "The scenario must have a title specified."
  | .noHeader scenario => "The examples of '" ++ scenario ++ "' must have a header row."
  | .unequalHeaders scenario =>
      "The example sets of '" ++ scenario ++ "' must provide the same parameters."
  | .step fault => fault.message
  | .unsupported cause => cause.message
  | .oversizedCount => "The number of attempts is too long to be written."
  | .unnamedColumn => "A column of the examples has no name."
  | .unnamedRow => "The first cell of an example row has no text."

end Rehearsal.TestClass
