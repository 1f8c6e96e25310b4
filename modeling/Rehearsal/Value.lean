import Rehearsal.Numeral
import Rehearsal.Text.Quoted

namespace Rehearsal

-- Plain data. The fields of a map are in the order in which they were put.
inductive Value where
  | null
  | bool (value : Bool)
  | int (value : Int)
  | text (value : String)
  | list (items : List Value)
  | map (fields : List (String × Value))
  deriving BEq, Repr, Inhabited

namespace Value

def field? (key : String) : Value → Option Value
  | .map fields => fields.lookup key
  | _ => none

mutual

-- The value as it is written inside another one. Numbers that are too long cannot be written.
def written? : Value → Option String
  | .null => some "None"
  | .bool true => some "True"
  | .bool false => some "False"
  | .int n => Numeral.write? n
  | .text value => some (literal value)
  | .list items => do
      let items ← writtenItems? items
      return "[" ++ ", ".intercalate items ++ "]"
  | .map fields => do
      let fields ← writtenFields? fields
      return "\x7b" ++ ", ".intercalate fields ++ "\x7d"

def writtenItems? : List Value → Option (List String)
  | [] => some []
  | item :: rest => do
      let first ← written? item
      let others ← writtenItems? rest
      return first :: others

def writtenFields? : List (String × Value) → Option (List String)
  | [] => some []
  | (key, value) :: rest => do
      let first ← written? value
      let others ← writtenFields? rest
      return (literal key ++ ": " ++ first) :: others

end

-- A text stands for itself.
def plain? : Value → Option String
  | .text value => some value
  | value => value.written?

-- Nothing, zero and what is empty count as false.
def isTruthy : Value → Bool
  | .null => false
  | .bool value => value
  | .int n => n != 0
  | .text value => !value.isEmpty
  | .list items => !items.isEmpty
  | .map fields => !fields.isEmpty

-- A tag is the same wherever it stands.
def placeless (fields : List (String × Value)) : List (String × Value) :=
  if fields.lookup "kind" == some (.text "Tag") then fields.filter (·.1 != "line_number")
  else fields

mutual

-- What counts in a comparison. Truth values are the numbers one and zero.
def counted : Value → Value
  | .bool value => .int (if value then 1 else 0)
  | .list items => .list (countedItems items)
  | .map fields => .map (placeless (countedFields fields))
  | value => value

def countedItems : List Value → List Value
  | [] => []
  | item :: rest => counted item :: countedItems rest

def countedFields : List (String × Value) → List (String × Value)
  | [] => []
  | (key, value) :: rest => (key, counted value) :: countedFields rest

end

-- Equality for which a truth value is a number, and a tag has no place.
def same (a b : Value) : Bool := a.counted == b.counted

end Value

end Rehearsal
