import Rehearsal.Code.Build

namespace Rehearsal.Runner

open Code

-- The test runner is a field of the generated class.
def field : String := "testRunner"

def expr : Expr := thisField field

def call (method : String) (arguments : List Expr) : Stmt := invoke expr method arguments

end Rehearsal.Runner
