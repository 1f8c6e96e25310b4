import Rehearsal.Settings.Data

namespace Rehearsal

namespace Memory

-- A map is copied, with the maps in it. Anything else is kept as it is.
def copyOne (memory : Memory) (merge : Fields → Fields → Option Fields) (field : Scalar × Data) :
    Option (Scalar × Data) :=
  match memory.fields? field.2 with
  | some fields => (merge fields []).map fun copy => (field.1, .map copy)
  | none => some field

-- Two maps are merged. Otherwise the newer value takes the place of the older one.
def mergeOne (memory : Memory) (merge : Fields → Fields → Option Fields) (known : Fields)
    (field : Scalar × Data) : Option Fields :=
  match (known.get? field.1.label).bind memory.fields?, memory.fields? field.2 with
  | some old, some newer => (merge old newer).map fun merged => known.put field.1 (.map merged)
  | _, _ => some (known.put field.1 field.2)

-- Newer fields are merged into a copy of older ones. There is no result if maps stand in each other
-- to more than the given depth.
def merge? (memory : Memory) : Nat → Fields → Fields → Option Fields
  | 0, _, _ => none
  | depth + 1, base, newer => do
      let copy ← base.mapM (memory.copyOne (merge? memory depth))
      newer.foldlM (memory.mergeOne (merge? memory depth)) copy

-- Gives a map other fields. One that is shared changes wherever it is referred to.
def assign (memory : Memory) (value : Data) (fields : Fields) : Memory × Data :=
  match value with
  | .shared place => (memory.set place (.map fields), value)
  | _ => (memory, .map fields)

end Memory

-- Settings as they are put together, and what is shared in them.
structure Config where
  memory : Memory := []
  fields : Fields := []

namespace Config

def at? (config : Config) (path : List String) : Option Data :=
  config.memory.at? path (.map config.fields)

-- The map that stands under a label, and its fields.
def section? (config : Config) (label : Label) : Option (Data × Fields) :=
  (config.fields.get? label).bind fun value =>
    (config.memory.fields? value).map fun fields => (value, fields)

-- The fields of a section give way to newer ones, one by one.
def overrideOne (config : Config) (field : Scalar × Data) : Config :=
  match config.section? field.1.label, config.memory.fields? field.2 with
  | some (old, known), some newer =>
      let (memory, value) := config.memory.assign old (known.putAll newer)
      { memory, fields := config.fields.put field.1 value }
  | _, _ => { config with fields := config.fields.put field.1 field.2 }

def override (config : Config) (overrides : Fields) : Config := overrides.foldl overrideOne config

def merge? (config : Config) (depth : Nat) (newer : Fields) : Option Config :=
  (config.memory.merge? depth config.fields newer).map fun fields => { config with fields }

end Config

-- The environment of the process.
abbrev Environment := List (String × String)

namespace Environment

def referred? (text : String) : Option String :=
  match text.toList with
  | '$' :: '\x7b' :: rest =>
      if rest.getLast? = some '\x7d' then some (String.ofList rest.dropLast) else none
  | _ => none

-- A text that refers to a variable stands for its value, if it is set.
def expandText (environment : Environment) (text : String) : String :=
  match referred? text with
  | some name => (environment.lookup name).getD text
  | none => text

end Environment

-- Every text in lists and maps is expanded. There is no result if these stand in each other to more
-- than the given depth.
def Memory.expand? (memory : Memory) (environ : Environment) : Nat → Data → Option Data
  | 0, _ => none
  | depth + 1, value =>
      match memory.look value with
      | .scalar (.text text) => some (.text (environ.expandText text))
      | .list items => (items.mapM (expand? memory environ depth)).map .list
      | .map fields =>
          (fields.mapM fun field =>
            (expand? memory environ depth field.2).map fun value => (field.1, value)).map .map
      | _ => some value

def Config.expand? (config : Config) (environ : Environment) (depth : Nat) : Option Config :=
  ((config.memory.expand? environ depth (.map config.fields)).bind config.memory.fields?).map
    fun fields => { config with fields }

end Rehearsal
