import Rehearsal.TestClass.Portion

namespace Rehearsal.TestClass

open Code

-- A framework that is not known by the name.
structure UnknownFramework where
  name : String
  deriving DecidableEq, Repr

def UnknownFramework.message (unknown : UnknownFramework) : String :=
  "Unknown unit test provider '" ++ unknown.name ++ "' (available: unittest)"

def namedFramework (name : String) : Except UnknownFramework Framework :=
  match Framework.named? name with
  | some framework => .ok framework
  | none => .error ⟨name⟩

namespace Generator

-- Retry directives are hidden only where they have an effect.
def policiesFor (kind : Kind) : List TagPolicy :=
  TagPolicy.sorted
    (match kind with
     | .plain => [.ignore]
     | .retry => [.ignore, .retry])

-- The generator for some settings. A given framework goes before the one that they name.
def ofSettings (settings : Settings) (framework : Option Framework) :
    Run UnknownFramework Generator := do
  let framework ←
    match framework with
    | some framework => pure framework
    | none => Run.ofExcept (namedFramework settings.framework)
  Run.debug ("Using " ++ settings.kind.name ++ " generator with " ++ framework.name)
  return { settings, framework, policies := policiesFor settings.kind }

end Generator

-- A generated module, with what the framework was told about row tests.
structure Generated where
  source : ModuleDecl
  rows : List RowEvent := []
  deriving BEq, Repr

def orElse (name : Option String) (fallback : String) : String :=
  match name with
  | some name => if name.isEmpty then fallback else name
  | none => fallback

def className (feature : Feature) : String := Identifier.pascal feature.name ++ "Feature"

-- The last component of a path.
def baseName (path : String) : String :=
  String.ofList ((path.toList.reverse.takeWhile (· != '/')).reverse)

-- The class without its members.
def shell (g : Generator) (feature : Feature) (name : String) : ClassDecl :=
  let generated := { generatedClass name with isPartial := true }
  (if g.settings.debugFiles then generated else generated.bindTo (baseName feature.path)).asTestCase
    (some feature.name) feature.description

def backgroundMethods (feature : Feature) : Except StepCall.Fault (List Method) :=
  match feature.background with
  | none => .ok []
  | some given => do return [← background given]

def backgroundTables (feature : Feature) : Nat :=
  match feature.background with
  | none => 0
  | some given => tableCount given.steps

-- All members of the class, in order.
def members (g : Generator) (feature : Feature) (given : List Method)
    (portions : List Portion) : List Member :=
  runnerField ::
    (lifecycle g.framework.traits g.settings.language feature ++ given ++
      portions.flatMap (·.methods)).map .method ++
    aliases frame (portions.flatMap (·.tests))

-- The module with the test class of a feature. Empty names count as missing.
def generate (g : Generator) (feature : Feature) (name target : Option String) :
    Run Fault Generated := do
  let name := orElse name (className feature)
  (Run.ofExcept g.framework.grant).mapError .unsupported
  let decoration ←
    (TagPolicy.decorate g.policies (feature.tags.map (·.name))).mapError .unsupported
  let given ← (Run.ofExcept (backgroundMethods feature)).mapError .step
  let portions ← portions g feature (backgroundTables feature) feature.scenarios
  Run.info
    ("Generated " ++ name ++ " with " ++ toString feature.scenarios.length ++ " scenario(s)")
  let runtime : Import := { name := g.settings.runtimeNamespace, members := some ["*"] }
  let classShell := (shell g feature name).mark decoration.attributes
  return {
    source :=
      { name := some (orElse target g.settings.defaultNamespace)
        imports := [runtime, frameworkImport]
        classes := [{ classShell with members := members g feature given portions }] }
    rows := portions.flatMap (·.rows) }

end Rehearsal.TestClass
