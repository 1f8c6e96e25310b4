import Rehearsal.Code.Render
import Rehearsal.Command.Options
import Rehearsal.Feature.Collect
import Rehearsal.Settings.Store
import Rehearsal.TestClass.Generate

namespace Rehearsal.Command

def version : String := "1.0.0"

-- Why a run does not reach its end.
inductive Failure where
  | settings (fault : SettingsFault)
  | collect (fault : Feature.CollectFault)
  | framework (unknown : TestClass.UnknownFramework)
  | generate (fault : TestClass.Fault)
  | render (error : Code.RenderError)
  | file (error : FileError)
  | directoryNotText
  deriving DecidableEq, Repr

namespace Failure

def message : Failure → String
  | .settings fault => fault.message
  | .collect fault => fault.message
  | .framework unknown => unknown.message
  | .generate fault => fault.message
  | .render error => error.message
  | .file error => error.message
  | .directoryNotText => "The output directory is not a text"

-- Failures that the user can mend are reported. Any other one breaks the run off.
def isReported : Failure → Bool
  | .settings .notSection => false
  | .settings .number => false
  | .settings .depth => false
  | .settings (.brokenOff _) => false
  | .settings (.file error) => error.fault != .notText
  | .settings _ => true
  | .collect (.file error) => error.fault != .notText
  | .collect (.parse _) => true
  | .framework _ => true
  | .generate (.step .emptyTable) => false
  | .generate (.unsupported _) => false
  | .generate .oversizedCount => false
  | .generate .unnamedColumn => false
  | .generate .unnamedRow => false
  | .generate _ => true
  | .render _ => false
  | .file error => error.fault != .nullInName
  | .directoryNotText => false

end Failure

-- What a run leaves behind.
structure Effects where
  tree : FileTree
  output : String := ""

structure Outcome where
  exitCode : Nat
  effects : Effects
  log : List Entry := []
  -- A failure that broke the run off.
  failure : Option Failure := none

def moduleName (feature : Feature) : String :=
  "test_" ++ Identifier.fileName (Identifier.pascal feature.name) ++ ".py"

-- The source text of a feature's test module.
def source (g : TestClass.Generator) (target : String) (feature : Feature) :
    Run Failure String := do
  let generated ← (TestClass.generate g feature none (some target)).mapError .generate
  (Run.ofExcept (generated.source.render Code.indentUnit)).mapError .render

def deliver (platform : Platform) (options : Options) (directory : Path) (effects : Effects)
    (feature : Feature) (source : String) : Run Failure Effects := do
  if options.print then
    return { effects with output := effects.output ++ platform.print source }
  let path := directory.child (moduleName feature)
  let tree ← (Run.ofExcept (effects.tree.makeDirectory directory)).mapError .file
  let tree ← (Run.ofExcept (tree.write path source)).mapError .file
  Run.info ("Generated " ++ path.toString)
  return { effects with tree }

-- Feature by feature. What was done before a failure stays.
def emit (platform : Platform) (g : TestClass.Generator) (options : Options) (directory : Path)
    (effects : Effects) : List Feature → Effects × Run Failure Unit
  | [] => (effects, pure ())
  | feature :: rest =>
      let step := do
        deliver platform options directory effects feature (← source g options.target feature)
      match step.result with
      | .error failure => (effects, ⟨step.log, .error failure⟩)
      | .ok next =>
          let (last, run) := emit platform g options directory next rest
          (last, ⟨step.log ++ run.log, run.result⟩)

-- The options go before the settings.
def directoryOf (options : Options) (store : Store) : Except Failure Path :=
  if !options.output.isEmpty then .ok (Path.ofString options.output)
  else
    match store.get? "output.directory" with
    | none => .ok (Path.ofString "generated")
    | some value =>
        match store.config.memory.look value with
        | .scalar (.text directory) => .ok (Path.ofString directory)
        | _ => .error .directoryNotText

-- All that has to succeed before the first feature is generated.
structure Preparation where
  features : List Feature
  -- Missing if there are no features.
  generator : Option (TestClass.Generator × Path)

def adjusted (options : Options) (settings : Settings) : Settings :=
  if options.noRetry then { settings with kind := .plain } else settings

def prepared (tree : FileTree) (options : Options) (store : Store) (settings : Settings) :
    Run Failure Preparation := do
  let features ←
    (Feature.collect tree (Path.ofString options.features) options.tags).mapError .collect
  if features.isEmpty then
    Run.warn "No scenarios found matching the criteria"
    return { features, generator := none }
  let generator ←
    (TestClass.Generator.ofSettings (adjusted options settings) none).mapError .framework
  let directory ← Run.ofExcept (directoryOf options store)
  return { features, generator := some (generator, directory) }

def prepare (platform : Platform) (tree : FileTree) (environ : Environment) (options : Options) :
    Run Failure Preparation := do
  Run.info ("Starting retrygen v" ++ version)
  let store := Store.ofNames (some options.config) (some options.environment)
  let (store, loading) := store.load platform tree environ
  let _ ← loading.mapError .settings
  let settings ← (store.settings platform tree environ).2.mapError .settings
  prepared tree options store settings

def conclude (effects : Effects) (run : Run Failure Unit) : Outcome :=
  match run.result with
  | .ok () => { exitCode := 0, effects, log := run.log }
  | .error failure =>
      if failure.isReported then
        { exitCode := 1, effects
          log := run.log ++ [⟨.error, "Generation failed: " ++ failure.message⟩] }
      else { exitCode := 1, effects, log := run.log, failure := some failure }

-- Generates the modules for all features that the options select.
def execute (platform : Platform) (tree : FileTree) (environ : Environment) (options : Options) :
    Outcome :=
  let effects : Effects := { tree }
  let preparation := prepare platform tree environ options
  match preparation.result with
  | .error failure => conclude effects ⟨preparation.log, .error failure⟩
  | .ok { generator := none, .. } => conclude effects ⟨preparation.log, .ok ()⟩
  | .ok { features, generator := some (generator, directory) } =>
      let (effects, emission) := emit platform generator options directory effects features
      let finished : Run Failure Unit := do
        emission
        Run.info ("Generated " ++ toString features.length ++ " feature(s)")
      conclude effects ⟨preparation.log ++ finished.log, finished.result⟩

end Rehearsal.Command
