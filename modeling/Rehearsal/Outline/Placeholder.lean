import Rehearsal.Code.Build
import Rehearsal.Text.Blank

namespace Rehearsal.Outline

open Code

-- Placeholder names with the identifiers that stand for them, in order of registration.
structure Placeholders where
  entries : List (String × String) := []
  deriving DecidableEq, Repr

namespace Placeholders

-- The first registration of a name wins. Blanks around a name do not count.
def add (table : Placeholders) (name identifier : String) : Placeholders :=
  let key := trimmed name
  if (table.entries.lookup key).isSome then table
  else ⟨table.entries ++ [(key, identifier)]⟩

def identifier? (table : Placeholders) (name : String) : Option String :=
  table.entries.lookup (trimmed name)

def names (table : Placeholders) : List String := table.entries.map (·.1)

def size (table : Placeholders) : Nat := table.entries.length

end Placeholders

-- A text with placeholders, cut where they stand.
inductive Piece where
  | char (c : Char)
  | slot (name : List Char)
  deriving DecidableEq, Repr

-- The characters since an opening bracket, if one is open.
def piecesFrom : Option (List Char) → List Char → List Piece
  | none, [] => []
  | some name, [] => .char '<' :: name.map .char
  | none, c :: rest =>
      if c == '<' then piecesFrom (some []) rest else .char c :: piecesFrom none rest
  | some [], c :: rest =>
      if c == '>' then .char '<' :: .char '>' :: piecesFrom none rest
      else piecesFrom (some [c]) rest
  | some (first :: name), c :: rest =>
      if c == '>' then .slot (first :: name) :: piecesFrom none rest
      else piecesFrom (some (first :: name ++ [c])) rest

-- A placeholder is a name in angle brackets, of at least one character and up to the first
-- closing bracket.
def pieces (text : List Char) : List Piece := piecesFrom none text

-- In a format text each brace that is meant literally is doubled.
def doubled (text : List Char) : List Char :=
  text.flatMap fun c => if c == '\x7b' || c == '\x7d' then [c, c] else [c]

-- Names are looked up as they stand in the format text.
def slotIdentifier? (table : Placeholders) (name : List Char) : Option String :=
  table.identifier? (String.ofList (doubled name))

def pieceIdentifier? (table : Placeholders) : Piece → Option String
  | .char _ => none
  | .slot name => slotIdentifier? table name

-- The identifiers that a text uses, each at its first use.
def slotArguments (table : Placeholders) (text : List Piece) : List String :=
  (text.filterMap (pieceIdentifier? table)).eraseDups

def formatPiece (table : Placeholders) (arguments : List String) : Piece → List Char
  | .char c => doubled [c]
  | .slot name =>
      match slotIdentifier? table name with
      | some identifier => '\x7b' :: (toString (arguments.idxOf identifier)).toList ++ ['\x7d']
      | none => '<' :: doubled name ++ ['>']

-- The text with a numbered slot for each placeholder that is known. Unknown ones stay.
def formatText (table : Placeholders) (arguments : List String) (text : List Piece) : String :=
  String.ofList (text.flatMap (formatPiece table arguments))

-- The expression for a text: a literal, or a format over the placeholders that it uses.
def substituted (table : Option Placeholders) : Option String → Expr
  | none => nullOf stringType
  | some value =>
      match table with
      | none => text value
      | some table =>
          let parts := pieces value.toList
          match slotArguments table parts with
          | [] => text value
          | arguments => .format (formatText table arguments parts) (arguments.map .var)

def substitutedArray (table : Option Placeholders) (items : List (Option String)) : Expr :=
  stringArray (items.map (substituted table))

-- No tags are a null array.
def tagArray (names : List String) : Expr :=
  if names.isEmpty then nullOf stringArrayType else stringArray (names.map text)

end Rehearsal.Outline
