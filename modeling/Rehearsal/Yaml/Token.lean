import Rehearsal.Yaml.Fold

namespace Rehearsal.Yaml

-- What a document is made of. Blocks are opened and closed by indentation.
inductive Token where
  | documentStart
  | documentEnd
  | blockList
  | blockMap
  | blockEnd
  | listOpen
  | listClose
  | mapOpen
  | mapClose
  | comma
  | entry
  | key
  | value
  | anchor (name : String)
  | alias (name : String)
  | scalar (text : String) (isPlain : Bool)
  deriving DecidableEq, Repr

-- A place in the text, and all that comes after it.
structure Cursor where
  index : Nat := 0
  line : Nat := 0
  column : Nat := 0
  rest : List Char
  deriving DecidableEq, Repr

namespace Cursor

def next (cursor : Cursor) : Cursor :=
  match cursor.rest with
  | [] => cursor
  | c :: rest =>
      if isBreak c then ⟨cursor.index + 1, cursor.line + 1, 0, rest⟩
      else if c == '\ufeff' then ⟨cursor.index + 1, cursor.line, cursor.column, rest⟩
      else ⟨cursor.index + 1, cursor.line, cursor.column + 1, rest⟩

def forward : Nat → Cursor → Cursor
  | 0, cursor => cursor
  | count + 1, cursor => forward count cursor.next

-- The place where a part of the rest begins.
def goTo (cursor : Cursor) (rest : List Char) : Cursor :=
  cursor.forward (cursor.rest.length - rest.length)

end Cursor

-- Where a key may have begun. It is one if a colon follows on the same line.
structure Candidate where
  cursor : Cursor
  -- The number of tokens before it.
  position : Nat
  -- A token that stands where the keys of a block stand has to be one.
  required : Bool
  deriving DecidableEq, Repr

-- A key that goes without its mark is not longer than this.
def keyLimit : Nat := 1024

-- What has been read of a text.
structure Scan where
  cursor : Cursor
  tokens : List Token := []
  -- How many brackets are open.
  depth : Nat := 0
  indent : Int := -1
  outer : List Int := []
  keyAllowed : Bool := true
  -- The candidates by depth.
  candidates : List (Nat × Candidate) := []

namespace Scan

def isFlow (s : Scan) : Bool := s.depth != 0

def push (s : Scan) (token : Token) : Scan := { s with tokens := s.tokens ++ [token] }

def insert (s : Scan) (position : Nat) (token : Token) : Scan :=
  { s with tokens := s.tokens.take position ++ token :: s.tokens.drop position }

-- The rest of the text after blanks and comments, and whether there was a line break.
def skipBlanks (comment broken : Bool) : List Char → List Char × Bool
  | [] => ([], broken)
  | c :: rest =>
      if isBreak c then skipBlanks false true rest
      else if comment || c == ' ' then skipBlanks comment broken rest
      else if c == '#' then skipBlanks true broken rest
      else (c :: rest, broken)

def skip (s : Scan) : Scan :=
  let (rest, broken) := skipBlanks false false s.cursor.rest
  { s with
    cursor := s.cursor.goTo rest
    keyAllowed := s.keyAllowed || (broken && !s.isFlow) }

def isStale (s : Scan) (candidate : Candidate) : Bool :=
  candidate.cursor.line != s.cursor.line || s.cursor.index - candidate.cursor.index > keyLimit

-- Candidates that no colon can follow any more are given up.
def dropStale (s : Scan) : Option Scan :=
  let (stale, live) := s.candidates.partition fun entry => s.isStale entry.2
  if stale.any (·.2.required) then none else some { s with candidates := live }

def candidate? (s : Scan) : Option Candidate := s.candidates.lookup s.depth

def forget (s : Scan) : Scan :=
  { s with candidates := s.candidates.filter (·.1 != s.depth) }

-- Gives up the candidate at this depth.
def giveUp (s : Scan) : Option Scan :=
  if s.candidate?.any (·.required) then none else some s.forget

-- What comes next may turn out to be a key.
def mayBeKey (s : Scan) : Option Scan :=
  if s.keyAllowed then do
    let s ← s.giveUp
    let candidate : Candidate :=
      { cursor := s.cursor, position := s.tokens.length
        required := !s.isFlow && s.indent == s.cursor.column }
    some { s with candidates := (s.depth, candidate) :: s.candidates }
  else some s

def closeBlocks (column indent : Int) (tokens : List Token) :
    List Int → List Token × Int × List Int
  | [] => (tokens, indent, [])
  | outer :: rest =>
      if column < indent then closeBlocks column outer (tokens ++ [.blockEnd]) rest
      else (tokens, indent, outer :: rest)

-- Blocks that stand further in than a column end there.
def close (s : Scan) (column : Int) : Scan :=
  if s.isFlow then s
  else
    let (tokens, indent, outer) := closeBlocks column s.indent s.tokens s.outer
    { s with tokens, indent, outer }

-- A block begins if the column is further in than the one around it.
def openBlock (s : Scan) (column position : Nat) (token : Token) : Scan :=
  if s.isFlow || !(s.indent < column) then s
  else { s.insert position token with indent := column, outer := s.indent :: s.outer }

-- Takes a token of some characters.
def take (s : Scan) (count : Nat) (token : Token) : Scan :=
  { s.push token with cursor := s.cursor.forward count }

def takeMark (s : Scan) (token : Token) : Option Scan := do
  let s ← (s.close (-1)).giveUp
  some { s.take 3 token with keyAllowed := false }

def openFlow (s : Scan) (token : Token) : Option Scan := do
  let s ← s.mayBeKey
  some { s.take 1 token with depth := s.depth + 1, keyAllowed := true }

def closeFlow (s : Scan) (token : Token) : Option Scan := do
  let s ← s.giveUp
  some { s.take 1 token with depth := s.depth - 1, keyAllowed := false }

def takeComma (s : Scan) : Option Scan := do
  let s ← s.giveUp
  some { s.take 1 .comma with keyAllowed := true }

-- Where a new line may start a key, an item or a key with its mark may stand too.
def takeEntry (s : Scan) : Option Scan :=
  if !s.isFlow && !s.keyAllowed then none
  else do
    let s ← (s.openBlock s.cursor.column s.tokens.length .blockList).giveUp
    some { s.take 1 .entry with keyAllowed := true }

def takeKey (s : Scan) : Option Scan :=
  if !s.isFlow && !s.keyAllowed then none
  else do
    let s ← (s.openBlock s.cursor.column s.tokens.length .blockMap).giveUp
    some { s.take 1 .key with keyAllowed := !s.isFlow }

-- A colon turns the candidate into a key. Without one it belongs to a key with its mark.
def takeValue (s : Scan) : Option Scan :=
  match s.candidate? with
  | some candidate =>
      let s := s.forget.insert candidate.position .key
      let s := s.openBlock candidate.cursor.column candidate.position .blockMap
      some { s.take 1 .value with keyAllowed := false }
  | none =>
      if !s.isFlow && !s.keyAllowed then none
      else do
        let s ← (s.openBlock s.cursor.column s.tokens.length .blockMap).giveUp
        some { s.take 1 .value with keyAllowed := !s.isFlow }

def takeQuoted (s : Scan) (double : Bool) (after : List Char) : Option Scan := do
  let s ← s.mayBeKey
  let (text, rest) ← quoted double after
  some { s.push (.scalar (String.ofList text) false) with
    cursor := s.cursor.goTo rest, keyAllowed := false }

def isNameChar (c : Char) : Bool := c.isAlphanum || c == '-' || c == '_'

-- A name that something is given or is referred to by.
def takeName (s : Scan) (token : String → Token) (after : List Char) : Option Scan := do
  let s ← s.mayBeKey
  let (name, rest) := after.span isNameChar
  if name.isEmpty || !(endsWord rest || rest.head?.any "?:,]\x7d%@\x60".toList.contains) then none
  else
    some { s.push (token (String.ofList name)) with
      cursor := s.cursor.goTo rest, keyAllowed := false }

def takePlain (s : Scan) : Option Scan := do
  let s ← s.mayBeKey
  let found := plain s.isFlow (s.indent + 1) s.cursor.rest
  some { s.push (.scalar (String.ofList found.text) true) with
    cursor := s.cursor.goTo found.rest, keyAllowed := found.broken }

-- Whether a scalar without quotes may start with a character.
def startsPlain (s : Scan) (c : Char) (after : List Char) : Bool :=
  if c == '-' then !endsWord after
  else if c == '?' || c == ':' then !s.isFlow && !endsWord after
  else !("\t,[]\x7b\x7d#&*!|>\x27\"%@\x60".toList.contains c)

-- Takes the token that starts with a character.
def fetch (s : Scan) (c : Char) (after : List Char) : Option Scan :=
  let atStart := s.cursor.column == 0
  if c == '-' && atStart && isMark "---" (c :: after) then s.takeMark .documentStart
  else if c == '.' && atStart && isMark "..." (c :: after) then s.takeMark .documentEnd
  else if c == '[' then s.openFlow .listOpen
  else if c == '\x7b' then s.openFlow .mapOpen
  else if c == ']' then s.closeFlow .listClose
  else if c == '\x7d' then s.closeFlow .mapClose
  else if c == ',' then s.takeComma
  else if c == '-' && endsWord after then s.takeEntry
  else if c == '?' && (s.isFlow || endsWord after) then s.takeKey
  else if c == ':' && (s.isFlow || endsWord after) then s.takeValue
  else if c == '&' then s.takeName .anchor after
  else if c == '*' then s.takeName .alias after
  else if c == '\x27' then s.takeQuoted false after
  else if c == '"' then s.takeQuoted true after
  else if s.startsPlain c after then s.takePlain
  else none

def run : Nat → Scan → Option (List Token)
  | 0, _ => none
  | fuel + 1, s => do
      let s ← s.skip.dropStale
      let s := s.close s.cursor.column
      match s.cursor.rest with
      | [] => return (← (s.close (-1)).giveUp).tokens
      | c :: after => run fuel (← s.fetch c after)

end Scan

def isPrintable (c : Char) : Bool :=
  let n := c.toNat
  c == '\t' || c == '\n' || (0x20 ≤ n && n ≤ 0x7e) || n == 0x85 || (0xa0 ≤ n && n ≤ 0xd7ff) ||
    (0xe000 ≤ n && n ≤ 0xfffd) || 0x10000 ≤ n

-- A mark of the byte order may open the text.
def unmarked : List Char → List Char
  | '\ufeff' :: rest => rest
  | text => text

-- The tokens of a text. Each of them takes at least one character.
def tokens? (text : List Char) : Option (List Token) :=
  if text.all isPrintable then
    Scan.run (text.length + 1) { cursor := { rest := unmarked text } }
  else none

end Rehearsal.Yaml
