import Rehearsal.Text.Range

namespace Rehearsal.Text

-- White space of every script. The separators of files, groups, records and units are blank.
def blankRanges : Ranges :=
  [(0x9, 0xD), (0x1C, 0x20), (0x85, 0x85), (0xA0, 0xA0), (0x1680, 0x1680), (0x2000, 0x200A),
   (0x2028, 0x2029), (0x202F, 0x202F), (0x205F, 0x205F), (0x3000, 0x3000)]

def isBlank (c : Char) : Bool := blankRanges.has c

def trimStart (text : List Char) : List Char := text.dropWhile isBlank

def trimEnd (text : List Char) : List Char := (text.reverse.dropWhile isBlank).reverse

-- The text without the blanks at its two ends.
def trim (text : List Char) : List Char := trimEnd (trimStart text)

-- The longest stretches of characters with a property, in order.
def runs (p : Char → Bool) : List Char → List (List Char)
  | [] => []
  | c :: rest =>
      if p c then
        if rest.head?.any p then
          match runs p rest with
          | [] => [[c]]
          | run :: others => (c :: run) :: others
        else [c] :: runs p rest
      else runs p rest

-- The parts of a text that blanks separate.
def tokens (text : List Char) : List (List Char) := runs (fun c => !isBlank c) text

end Rehearsal.Text

namespace Rehearsal

def trimmed (text : String) : String := String.ofList (Text.trim text.toList)

end Rehearsal
