import Rehearsal.Text.Blank

namespace Rehearsal.Row

-- A backslash makes a bar or a backslash part of its cell and writes a line feed with "n". In
-- front of any other character it stands for itself.
def unescaped (c : Char) : List (Option Char) :=
  if c == 'n' then [some '\n']
  else if c == '|' || c == '\\' then [some c]
  else [some '\\', some c]

def mark (c : Char) : Option Char := if c == '|' then none else some c

-- The characters of the cells, with none for each bar that ends a cell.
def marks : List Char → List (Option Char)
  | [] => []
  | [c] => [mark c]
  | c :: next :: rest =>
      if c == '\\' then unescaped next ++ marks rest else mark c :: marks (next :: rest)

-- Only blanks may follow the last bar.
def cut (cell : List Char) : List (Option Char) → Option (List (List Char))
  | [] => if cell.all Text.isBlank then some [] else none
  | none :: rest => (cut [] rest).map (Text.trim cell :: ·)
  | some c :: rest => cut (cell ++ [c]) rest

-- The cells of a table row, given what follows its first bar.
def cells? (text : List Char) : Option (List String) :=
  (cut [] (marks text)).map (·.map String.ofList)

end Rehearsal.Row
