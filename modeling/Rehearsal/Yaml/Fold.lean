import Rehearsal.Text.Escape

namespace Rehearsal.Yaml

open Text

def isBreak (c : Char) : Bool := c == '\n' || c == '\x85' || c == '\u2028' || c == '\u2029'

def isSpace (c : Char) : Bool := c == ' ' || c == '\t'

def endsWord (text : List Char) : Bool :=
  match text with
  | [] => true
  | c :: _ => isSpace c || isBreak c

-- A mark that starts or ends a document, at the start of a line.
def isMark (mark : String) (text : List Char) : Bool :=
  mark.toList.isPrefixOf text && endsWord (text.drop 3)

def isAnyMark (text : List Char) : Bool := isMark "---" text || isMark "..." text

-- Two kinds of line breaks are kept as they are.
def breakText (c : Char) : Char := if c == '\x85' then '\n' else c

-- Lines that follow each other are joined by a space. Blank lines between them stay as breaks.
def folded (first : Char) (more : List Char) : List Char :=
  if breakText first != '\n' then breakText first :: more
  else if more.isEmpty then [' ']
  else more

-- The breaks of blank lines, up to the next text. No mark may stand at the start of a line.
def blankLines (atStart : Bool) : List Char → Option (List Char × List Char)
  | [] => some ([], [])
  | c :: rest =>
      if atStart && isAnyMark (c :: rest) then none
      else if isSpace c then blankLines false rest
      else if isBreak c then
        (blankLines true rest).map fun (more, after) => (breakText c :: more, after)
      else some ([], c :: rest)

-- Escapes of one character.
def escaped? (c : Char) : Option Char :=
  [('0', '\x00'), ('a', '\x07'), ('b', '\x08'), ('t', '\t'), ('\t', '\t'), ('n', '\n'),
   ('v', '\x0b'), ('f', '\x0c'), ('r', '\r'), ('e', '\x1b'), (' ', ' '), ('"', '"'), ('/', '/'),
   ('\\', '\\'), ('N', '\x85'), ('_', '\xa0'), ('L', '\u2028'), ('P', '\u2029')].lookup c

-- What an escape stands for, and the text after it. A line break after the backslash is no break.
def escape? : List Char → Option (List Char × List Char)
  | [] => none
  | c :: rest =>
      if isBreak c then blankLines true rest
      else
        match escaped? c, escapeWidth? c with
        | some char, _ => some ([char], rest)
        | none, some width =>
            if rest.length < width then none
            else (codePoint? (rest.take width)).map fun char => ([char], rest.drop width)
        | none, none => none

-- The text after an opening quote, up to the closing one, and what comes after that. Inside
-- single quotes two of them stand for one, and inside double quotes a backslash starts an escape.
def quotedFrom (double : Bool) : Nat → List Char → Option (List Char × List Char)
  | 0, _ => none
  | _, [] => none
  | fuel + 1, c :: rest => do
      if double && c == '"' then some ([], rest)
      else if !double && c == '\x27' then
        match rest with
        | '\x27' :: after =>
            (quotedFrom double fuel after).map fun (text, last) => ('\x27' :: text, last)
        | _ => some ([], rest)
      else if double && c == '\\' then
        let (first, after) ← escape? rest
        let (text, last) ← quotedFrom double fuel after
        some (first ++ text, last)
      else if isSpace c || isBreak c then
        let (blanks, after) := (c :: rest).span isSpace
        match after with
        | [] => none
        | next :: later =>
            if isBreak next then
              let (more, after) ← blankLines true later
              let (text, last) ← quotedFrom double fuel after
              some (folded next more ++ text, last)
            else
              let (text, last) ← quotedFrom double fuel after
              some (blanks ++ text, last)
      else
        let (text, last) ← quotedFrom double fuel rest
        some (c :: text, last)

def quoted (double : Bool) (text : List Char) : Option (List Char × List Char) :=
  quotedFrom double (text.length + 1) text

def isFlowMark (c : Char) : Bool := ",[]\x7b\x7d".toList.contains c

-- Whether a scalar without quotes ends before a character.
def plainStops (flow : Bool) (c : Char) (rest : List Char) : Bool :=
  isSpace c || isBreak c ||
    (c == ':' && (endsWord rest || (flow && rest.head?.any isFlowMark))) ||
    (flow && (c == '?' || isFlowMark c))

def plainRun (flow : Bool) : List Char → List Char × List Char
  | [] => ([], [])
  | c :: rest =>
      if plainStops flow c rest then ([], c :: rest)
      else
        let (run, after) := plainRun flow rest
        (c :: run, after)

-- What divides two words of a scalar, and where the next one would stand.
structure Gap where
  -- Empty where the scalar is over.
  text : List Char
  rest : List Char
  -- The column, if there was a line break.
  column : Option Nat := none

-- After a line break. Blank lines count, and a mark of a document ends the scalar.
def gapLines (first : Char) (more : List Char) (column : Nat) : List Char → Gap
  | [] => ⟨folded first more.reverse, [], some column⟩
  | c :: rest =>
      if column == 0 && isAnyMark (c :: rest) then ⟨[], c :: rest, some 0⟩
      else if c == ' ' then gapLines first more (column + 1) rest
      else if isBreak c then gapLines first (breakText c :: more) 0 rest
      else ⟨folded first more.reverse, c :: rest, some column⟩

def plainGap (text : List Char) : Gap :=
  let (spaces, after) := text.span (· == ' ')
  match after with
  | c :: rest => if isBreak c then gapLines c [] 0 rest else ⟨spaces, after, none⟩
  | [] => ⟨spaces, [], none⟩

def Gap.isWithin (gap : Gap) (flow : Bool) (indent : Int) : Bool :=
  flow || gap.column.all fun column => decide (indent ≤ column)

-- A scalar without quotes. On further lines it must stand further in than what holds it.
structure Plain where
  text : List Char
  rest : List Char
  -- Whether the last thing before the rest is a line break.
  broken : Bool

def plainFrom (flow : Bool) (indent : Int) : Nat → List Char → Gap → Plain
  | 0, text, gap => ⟨text, gap.rest, gap.column.isSome⟩
  | fuel + 1, text, gap =>
      let (run, after) := plainRun flow gap.rest
      if run.isEmpty || gap.rest.head? == some '#' then ⟨text, gap.rest, gap.column.isSome⟩
      else
        let text := text ++ gap.text ++ run
        let next := plainGap after
        if next.text.isEmpty || !next.isWithin flow indent then
          ⟨text, next.rest, next.column.isSome⟩
        else plainFrom flow indent fuel text next

def plain (flow : Bool) (indent : Int) (text : List Char) : Plain :=
  plainFrom flow indent (text.length + 1) [] ⟨[], text, none⟩

end Rehearsal.Yaml
