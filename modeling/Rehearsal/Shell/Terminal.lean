namespace Rehearsal.Shell

def isParameter (c : Char) : Bool := c == ';' || c == '?' || c.isDigit

-- The length of the terminal sequence that a text starts with, if it does.
def sequenceLength? : List Char → Option Nat
  | '\x1b' :: '[' :: rest =>
      let parameters := rest.takeWhile isParameter
      match rest.drop parameters.length with
      | c :: _ => if c.isAlpha then some (parameters.length + 3) else none
      | [] => none
  | _ => none

-- The count says how many characters of the last sequence are still to be passed over.
def strippedFrom : Nat → List Char → List Char
  | _, [] => []
  | skip + 1, _ :: rest => strippedFrom skip rest
  | 0, c :: rest =>
      match sequenceLength? (c :: rest) with
      | some length => strippedFrom (length - 1) rest
      | none => c :: strippedFrom 0 rest

-- The text without the sequences that a terminal would obey.
def stripped (text : String) : String := String.ofList (strippedFrom 0 text.toList)

end Rehearsal.Shell
