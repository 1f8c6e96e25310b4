import Rehearsal.Text.CaseTable

namespace Rehearsal.Text

def shifted (table : List CaseRun) (c : Char) : Char :=
  match table.find? fun run => run.first ≤ c.toNat && c.toNat ≤ run.last &&
      (c.toNat - run.first) % run.step == 0 with
  | some run => Char.ofNat (c.toNat + run.shift).toNat
  | none => c

def upperChar (c : Char) : List Char :=
  if c.toNat < 128 then [c.toUpper]
  else
    match upperExpansions.lookup c.toNat with
    | some codes => codes.map Char.ofNat
    | none => [shifted upperRuns c]

-- The lower-case form of a character that stands alone.
def lowerChar (c : Char) : List Char :=
  if c.toNat < 128 then [c.toLower]
  else if c == 'İ' then ['i', '\u0307']
  else [shifted lowerRuns c]

def upper (text : List Char) : List Char := text.flatMap upperChar

def startsCased : List Char → Bool
  | [] => false
  | c :: rest => if caseIgnorableRanges.has c then startsCased rest else casedRanges.has c

-- The flag says whether a cased character goes before, ignorable ones aside.
def lowerFrom (cased : Bool) : List Char → List Char
  | [] => []
  | c :: rest =>
      let form :=
        if c == 'Σ' then [if cased && !startsCased rest then 'ς' else 'σ']
        else lowerChar c
      form ++ lowerFrom (if caseIgnorableRanges.has c then cased else casedRanges.has c) rest

-- A capital sigma at the end of a word takes its final form.
def lower (text : List Char) : List Char := lowerFrom false text

end Rehearsal.Text

namespace Rehearsal

def lowered (text : String) : String := String.ofList (Text.lower text.toList)

def uppered (text : String) : String := String.ofList (Text.upper text.toList)

end Rehearsal
