import Rehearsal.Numeral
import Rehearsal.Text.Quoted

namespace Rehearsal

-- What a field is found by. Numbers of different kinds that are equal are one label.
inductive Label where
  | null
  | number (value : Int)
  | text (value : String)
  | other (name : String)
  deriving DecidableEq, Repr

-- A scalar of another kind, such as a fraction, a date or a set. It is known by what can be seen of
-- it: the texts are missing if it cannot be written.
structure Atom where
  label : Label
  isTruthy : Bool
  plain? : Option String
  written? : Option String
  deriving DecidableEq, Repr

inductive Scalar where
  | null
  | bool (value : Bool)
  | int (value : Int)
  | text (value : String)
  | atom (value : Atom)
  deriving DecidableEq, Repr

namespace Scalar

def label : Scalar → Label
  | .null => .null
  | .bool value => .number (if value then 1 else 0)
  | .int value => .number value
  | .text value => .text value
  | .atom value => value.label

-- Nothing, zero and what is empty count as false.
def isTruthy : Scalar → Bool
  | .null => false
  | .bool value => value
  | .int value => value != 0
  | .text value => !value.isEmpty
  | .atom value => value.isTruthy

-- The scalar as it is written inside a list or a map. Numbers that are too long cannot be written.
def written? : Scalar → Option String
  | .null => some "None"
  | .bool true => some "True"
  | .bool false => some "False"
  | .int value => Numeral.write? value
  | .text value => some (literal value)
  | .atom value => value.written?

-- The scalar by itself. A text stands for itself.
def plain? : Scalar → Option String
  | .text value => some value
  | .atom value => value.plain?
  | value => value.written?

end Scalar

-- What settings are made of. A list, a pair or a map may stand at a place, and all that refer to
-- the place share it.
inductive Data where
  | scalar (value : Scalar)
  | list (items : List Data)
  | pair (first second : Data)
  | map (fields : List (Scalar × Data))
  | shared (place : Nat)
  deriving Repr, Inhabited

-- Why data cannot be written: a number in it is too long, or too much of it stands in each other.
inductive Data.Fault where
  | number
  | depth
  deriving DecidableEq, Repr

abbrev Data.text (value : String) : Data := .scalar (.text value)

abbrev Data.bool (value : Bool) : Data := .scalar (.bool value)

-- The fields of a map, in the order in which they were put.
abbrev Fields := List (Scalar × Data)

namespace Fields

def get? (fields : Fields) (label : Label) : Option Data :=
  (fields.find? fun field => field.1.label == label).map (·.2)

-- A field that is there already keeps its place and its key.
def put (key : Scalar) (value : Data) : Fields → Fields
  | [] => [(key, value)]
  | (first, old) :: rest =>
      if first.label = key.label then (first, value) :: rest
      else (first, old) :: put key value rest

def putAll (fields newer : Fields) : Fields :=
  newer.foldl (fun known field => put field.1 field.2 known) fields

def erase (fields : Fields) (label : Label) : Fields :=
  fields.filter fun field => field.1.label != label

def hasTwice : Fields → Bool
  | [] => false
  | field :: rest => (get? rest field.1.label).isSome || hasTwice rest

end Fields

mutual

-- Data in which no map has a label twice, and all places are within bounds.
def Data.isSound (low high : Nat) : Data → Bool
  | .scalar _ => true
  | .list items => areSound low high items
  | .pair first second => first.isSound low high && second.isSound low high
  | .map fields => !Fields.hasTwice fields && haveSound low high fields
  | .shared place => low ≤ place && place < high

def areSound (low high : Nat) : List Data → Bool
  | [] => true
  | item :: rest => item.isSound low high && areSound low high rest

def haveSound (low high : Nat) : List (Scalar × Data) → Bool
  | [] => true
  | (_, value) :: rest => value.isSound low high && haveSound low high rest

end

-- What stands at the places, from the first one on.
abbrev Memory := List Data

namespace Memory

-- What a reference refers to. Anything else is seen as it is.
def look (memory : Memory) : Data → Data
  | .shared place => memory.getD place (.shared place)
  | value => value

def fields? (memory : Memory) (value : Data) : Option Fields :=
  match memory.look value with
  | .map fields => some fields
  | _ => none

-- The fields of a map. Anything else has none.
def fieldsOf (memory : Memory) (value : Data) : Fields := (memory.fields? value).getD []

-- The value below a value, key by key.
def at? (memory : Memory) : List String → Data → Option Data
  | [], value => some value
  | key :: rest, value =>
      (memory.fields? value).bind fun fields => (fields.get? (.text key)).bind (at? memory rest)

def isTruthy (memory : Memory) (value : Data) : Bool :=
  match memory.look value with
  | .scalar value => value.isTruthy
  | .list items => !items.isEmpty
  | .map fields => !fields.isEmpty
  | .pair _ _ => true
  | .shared _ => true

def orNumber : Option String → Except Data.Fault String
  | some text => .ok text
  | none => .error .number

-- A list, pair or map that stands inside itself is cut short there.
def cutShort (memory : Memory) (value : Data) : String :=
  match memory.look value with
  | .map _ => "\x7b...\x7d"
  | .pair _ _ => "(...)"
  | _ => "[...]"

def isOpen (around : List Nat) : Data → Bool
  | .shared place => around.contains place
  | _ => false

def entered (around : List Nat) : Data → List Nat
  | .shared place => place :: around
  | _ => around

-- The text of a value inside another one, and the places that are around it. The depth says how
-- many lists, pairs and maps may stand in each other.
def written (memory : Memory) : Nat → List Nat → Data → Except Data.Fault String
  | 0, _, _ => .error .depth
  | depth + 1, around, value =>
      if isOpen around value then .ok (memory.cutShort value)
      else
        let inner := written memory depth (entered around value)
        match memory.look value with
        | .scalar value => orNumber value.written?
        | .list items => do return "[" ++ ", ".intercalate (← items.mapM inner) ++ "]"
        | .pair first second => do
            let first ← inner first
            return "(" ++ first ++ ", " ++ (← inner second) ++ ")"
        | .map fields => do
            let fields ← fields.mapM fun field => do
              let key ← orNumber field.1.written?
              return key ++ ": " ++ (← inner field.2)
            return "\x7b" ++ ", ".intercalate fields ++ "\x7d"
        | .shared _ => .ok (memory.cutShort value)

-- The text of a value. A scalar is written at any depth.
def plain (memory : Memory) (depth : Nat) (value : Data) : Except Data.Fault String :=
  match memory.look value with
  | .scalar value => orNumber value.plain?
  | _ => memory.written depth [] value

end Memory

def dotted : List Char → List (List Char)
  | [] => [[]]
  | c :: rest =>
      if c == '.' then [] :: dotted rest
      else
        match dotted rest with
        | [] => [[c]]
        | part :: others => (c :: part) :: others

-- The parts of a key that dots separate.
def keyPath (key : String) : List String := (dotted key.toList).map String.ofList

end Rehearsal
