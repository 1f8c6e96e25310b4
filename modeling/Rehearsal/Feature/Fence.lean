import Rehearsal.Text.Blank
import Rehearsal.Text.Replace

namespace Rehearsal

-- A doc string that is being read. Its fence is a mark written three times.
structure Fence where
  mark : Char
  indent : Nat
  contentType : Option String
  start : Nat
  lines : List String := []
  deriving DecidableEq, Repr

namespace Fence

def delimiter (mark : Char) : List Char := [mark, mark, mark]

-- The delimiter as it is written inside a doc string.
def escapedDelimiter (mark : Char) : List Char := ['\\', mark, '\\', mark, '\\', mark]

def isClosedBy (fence : Fence) (line : List Char) : Bool :=
  Text.trim line == delimiter fence.mark

-- Lines lose the indentation of the opening fence, and never a character that is not blank.
def unindented (indent : Nat) (line : List Char) : List Char :=
  if (line.take indent).all Text.isBlank then line.drop indent else Text.trimStart line

def contentLine (fence : Fence) (line : List Char) : List Char :=
  Text.replace (escapedDelimiter fence.mark) (delimiter fence.mark)
    (unindented fence.indent line)

def push (fence : Fence) (line : List Char) : Fence :=
  { fence with lines := fence.lines ++ [String.ofList (fence.contentLine line)] }

def content (fence : Fence) : String := "\n".intercalate fence.lines

end Fence

end Rehearsal
