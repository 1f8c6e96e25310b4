import Rehearsal.Files.Tree
import Rehearsal.Log.Basic
import Rehearsal.Platform
import Rehearsal.Settings.Basic
import Rehearsal.Settings.Merge
import Rehearsal.Text.Blank
import Rehearsal.Text.Case

namespace Rehearsal

def defaultFields : Fields :=
  let settings : Settings := {}
  [(.text "generator", .map
      [(.text "kind", .text settings.kind.name),
       (.text "unit_test_provider", .text settings.framework),
       (.text "allow_row_tests", .bool settings.rowTests),
       (.text "allow_debug_generated_files", .bool settings.debugFiles),
       (.text "default_namespace", .text settings.defaultNamespace),
       (.text "runtime_namespace", .text settings.runtimeNamespace),
       (.text "target_language", .text settings.language.name)]),
   (.text "output", .map [(.text "directory", .text "generated")])]

-- Why there are no settings.
inductive SettingsFault where
  | notMapping (path : Path)
  | invalidText (path : Path)
  | invalidValue (value : String) (key : String) (allowed : List String)
  | notSection
  | number
  | depth
  | brokenOff (error : String)
  | file (error : FileError)
  deriving DecidableEq, Repr

namespace SettingsFault

def message : SettingsFault → String
  | .notMapping path => "Expected a mapping at the top of " ++ path.toString
  | .invalidText path => "Invalid YAML in " ++ path.toString
  | .invalidValue value key allowed =>
      "Invalid value '" ++ value ++ "' for " ++ key ++ " (expected one of: " ++
        ", ".intercalate allowed ++ ")"
  | .notSection => "A section is not a mapping"
  | .number => "A number is too long to be written"
  | .depth => "Too many lists and mappings stand in each other"
  | .brokenOff error => "A file could not be read: " ++ error
  | .file error => error.message

def ofData : Data.Fault → SettingsFault
  | .number => .number
  | .depth => .depth

end SettingsFault

namespace Settings

-- The text of a value, if it can be written.
def textOf (platform : Platform) (memory : Memory) (value : Data) : Except SettingsFault String :=
  (memory.plain platform.writingDepth value).mapError .ofData

def choice {α : Type} (all : List α) (name : α → String) (key text : String) :
    Except SettingsFault α :=
  match all.find? fun a => name a == lowered text with
  | some a => .ok a
  | none => .error (.invalidValue text key (all.map name))

-- A text switches something on by one of a few words.
def switch (memory : Memory) (value : Data) : Bool :=
  match memory.look value with
  | .scalar (.text text) => lowered (trimmed text) ∈ ["1", "true", "yes", "on"]
  | _ => memory.isTruthy value

-- Nothing at all stands for an empty section.
def generatorSection (config : Config) : Except SettingsFault Fields :=
  match config.at? ["generator"] with
  | none => .ok []
  | some value =>
      match config.memory.fields? value with
      | some fields => .ok fields
      | none => if config.memory.isTruthy value then .error .notSection else .ok []

-- The settings of the generator's section. What it leaves out has its default.
def ofConfig (platform : Platform) (config : Config) : Except SettingsFault Settings := do
  let fields ← generatorSection config
  let given := fun (key : String) (fallback : Data) => (fields.get? (.text key)).getD fallback
  let textOf := textOf platform config.memory
  let switch := switch config.memory
  let kind ← textOf (given "kind" (.text "retry"))
  let kind ← choice Kind.all Kind.name "generator.kind" kind
  let framework ← textOf (given "unit_test_provider" (.text "unittest"))
  let defaultNamespace ← textOf (given "default_namespace" (.text "SpecFlowTests"))
  let runtimeNamespace ← textOf (given "runtime_namespace" (.text "specflow"))
  let language ← textOf (given "target_language" (.text "python"))
  let language ← choice Language.all Language.name "generator.target_language" language
  return {
    kind
    framework
    rowTests := switch (given "allow_row_tests" (.bool true))
    debugFiles := switch (given "allow_debug_generated_files" (.bool false))
    defaultNamespace
    runtimeNamespace
    language }

end Settings

-- Where settings come from, and what was loaded last.
structure Store where
  path : Option Path := none
  environment : String := ""
  config : Config := {}

-- A failure keeps what had been put together before it.
structure LoadError where
  fault : SettingsFault
  reached : Config

namespace Store

-- Empty names count as missing.
def ofNames (path environment : Option String) : Store :=
  let path := path.getD ""
  { path := if path.isEmpty then none else some (Path.ofString path)
    environment := environment.getD "" }

-- The map that a file holds, and the memory with all that the file shares. An empty file holds an
-- empty map.
def readFile (platform : Platform) (tree : FileTree) (path : Path) (memory : Memory) :
    Except SettingsFault (Memory × Data) := do
  let text ← (tree.read path).mapError .file
  match platform.read memory.length text with
  | .error .invalid => .error (.invalidText path)
  | .error (.brokenOff error) => .error (.brokenOff error)
  | .ok document =>
      let memory := memory ++ document.memory
      match memory.look document.root with
      | .scalar .null => .ok (memory, .map [])
      | .map _ => .ok (memory, document.root)
      | _ => .error (.notMapping path)

def isThere (tree : FileTree) (path : Path) : Except SettingsFault Bool :=
  (tree.isThere path).mapError .file

def environmentPath (path : Path) (environment : String) : Path :=
  (path.parent.child "environments").child (environment ++ ".yaml")

def overridesLabel : Label := .text "overrides"

def reaching {α : Type} (reached : Config) (result : Except SettingsFault α) :
    Run LoadError α :=
  Run.ofExcept (result.mapError (⟨·, reached⟩))

def merging (depth : Nat) (config : Config) (newer : Fields) : Run LoadError Config :=
  reaching config ((config.merge? depth newer).elim (.error .depth) .ok)

-- Overrides replace the fields of a section, then the other fields are merged.
def applyEnvironment (depth : Nat) (config : Config) (given : Data) : Run LoadError Config := do
  let fields := config.memory.fieldsOf given
  match fields.get? overridesLabel with
  | none => merging depth config fields
  | some overrides =>
      let (memory, given) := config.memory.assign given (fields.erase overridesLabel)
      let config := { config with memory }
      let overrides ← reaching config ((memory.fields? overrides).elim (.error .notSection) .ok)
      let config := config.override overrides
      merging depth config (config.memory.fieldsOf given)

def withFile (platform : Platform) (tree : FileTree) (path : Path) (config : Config) :
    Run LoadError Config := do
  if ← reaching config (isThere tree path) then
    let (memory, root) ← reaching config (readFile platform tree path config.memory)
    merging platform.depth { config with memory } (memory.fieldsOf root)
  else
    Run.warn ("Config file not found: " ++ path.toString)
    return config

def withEnvironment (platform : Platform) (tree : FileTree) (path : Path) (environment : String)
    (config : Config) : Run LoadError Config := do
  if environment.isEmpty then return config
  let file := environmentPath path environment
  if ← reaching config (isThere tree file) then
    let (memory, given) ← reaching config (readFile platform tree file config.memory)
    applyEnvironment platform.depth { config with memory } given
  else
    Run.warn ("Environment config not found: " ++ file.toString)
    return config

def loadedFrom (path : Path) (environment : String) : String :=
  "Configuration loaded from " ++ path.toString ++
    if environment.isEmpty then "" else " for environment: " ++ environment

-- The defaults, then the file, then the file of the environment, and last the variables.
def loadConfig (platform : Platform) (tree : FileTree) (environ : Environment) (store : Store) :
    Run LoadError Config := do
  let config : Config := { fields := defaultFields }
  match store.path with
  | none =>
      Run.debug "No config file given, using defaults"
      return config
  | some path =>
      let config ← withFile platform tree path config
      let config ← withEnvironment platform tree path store.environment config
      let config ← reaching config
        ((config.expand? environ platform.depth).elim (.error .depth) .ok)
      Run.info (loadedFrom path store.environment)
      return config

-- The store after loading, whether or not that succeeds.
def load (platform : Platform) (tree : FileTree) (environ : Environment) (store : Store) :
    Store × Run SettingsFault Config :=
  let run := store.loadConfig platform tree environ
  let reached :=
    match run.result with
    | .ok config => config
    | .error error => error.reached
  ({ store with config := reached }, run.mapError (·.fault))

def get? (store : Store) (key : String) : Option Data := store.config.at? (keyPath key)

-- The settings of the generator. They are loaded at first use.
def settings (platform : Platform) (tree : FileTree) (environ : Environment) (store : Store) :
    Store × Run SettingsFault Settings :=
  if store.config.fields.isEmpty then
    let (loaded, run) := store.load platform tree environ
    (loaded, run >>= fun config => Run.ofExcept (Settings.ofConfig platform config))
  else (store, Run.ofExcept (Settings.ofConfig platform store.config))

end Store

end Rehearsal
