import Rehearsal.Command.Run
import Rehearsal.Shell.Arguments
import Rehearsal.Shell.Terminal
import Rehearsal.Yaml.Content

namespace Rehearsal.Shell

open Command

-- A text is printed on lines of its own. Only a terminal is sent what a terminal obeys.
def print (isTerminal : Bool) (text : String) : String :=
  (if isTerminal then text else stripped text) ++ "\n"

def platform (isTerminal : Bool) : Platform :=
  { read := Yaml.read, print := print isTerminal, depth := commonDepth, roomy := le_commonDepth
    writingDepth := commonDepth }

def help : String :=
  "Usage: main [OPTIONS]\n\n" ++
  "  Generate unit test modules from Gherkin feature files\n\n" ++
  "  Examples:     # Generate every feature under ./features into ./generated\n" ++
  "  python run.py --features features --output generated\n\n" ++
  "      # Only smoke scenarios, printed to the console     python run.py --tags\n" ++
  "      @smoke --stdout\n\n" ++
  "Options:\n" ++
  "  -f, --features TEXT   Path to features directory\n" ++
  "  -o, --output TEXT     Directory for the generated modules\n" ++
  "  -c, --config TEXT     Path to config file\n" ++
  "  -e, --env TEXT        Environment config to merge\n" ++
  "                        (config/environments/<env>.yaml)\n" ++
  "  -t, --tags TEXT       Only generate scenarios carrying one of these tags\n" ++
  "  -n, --namespace TEXT  Namespace of the generated classes\n" ++
  "  --no-retry            Ignore @Retry tags and generate plain test methods\n" ++
  "  --stdout              Print generated code instead of writing files\n" ++
  "  --version             Show the version and exit.\n" ++
  "  --help                Show this message and exit.\n"

def answer : Question → String
  | .version => "main, version " ++ version ++ "\n"
  | .help => help

-- The whole command. Arguments that make no sense end it before anything is done.
def run (platform : Platform) (tree : FileTree) (environ : Environment) (arguments : List String) :
    Outcome :=
  match Arguments.read? arguments with
  | none => { exitCode := 2, effects := { tree } }
  | some { question := some question, .. } =>
      { exitCode := 0, effects := { tree, output := answer question } }
  | some { options, extra, .. } =>
      if extra.isEmpty then execute platform tree environ options
      else { exitCode := 2, effects := { tree } }

end Rehearsal.Shell
