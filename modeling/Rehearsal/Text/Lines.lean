namespace Rehearsal.Text

-- Characters that end a line. A carriage return and a line feed after it end one line.
def isLineBreak (c : Char) : Bool :=
  c ∈ ['\n', '\r', '\x0b', '\x0c', '\x1c', '\x1d', '\x1e', '\x85', '\u2028', '\u2029']

def isFeed (rest : List Char) : Bool := rest.head? == some '\n'

-- The lines of a text without the characters that end them. A break at the end of the text
-- opens no further line.
def lines : List Char → List (List Char)
  | [] => []
  | c :: rest =>
      if c == '\r' && isFeed rest then lines rest
      else if isLineBreak c then [] :: lines rest
      else
        match lines rest with
        | [] => [[c]]
        | line :: others => (c :: line) :: others

-- Text as it is read from a file: each carriage return, alone or before a line feed, is a feed.
def feeds : List Char → List Char
  | [] => []
  | c :: rest =>
      if c == '\r' then if isFeed rest then feeds rest else '\n' :: feeds rest
      else c :: feeds rest

end Rehearsal.Text
