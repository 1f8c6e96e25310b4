import Rehearsal.Platform
import Rehearsal.Text.Escape

namespace Rehearsal.Yaml

open Text Content

-- A number that cannot be read breaks the reading off.
def unreadable : Fault := .brokenOff "ValueError"

def trueWords : List String :=
  ["yes", "Yes", "YES", "true", "True", "TRUE", "on", "On", "ON"]

def falseWords : List String :=
  ["no", "No", "NO", "false", "False", "FALSE", "off", "Off", "OFF"]

def nullWords : List String := ["", "~", "null", "Null", "NULL"]

-- Words that mean something only as keys.
def keyWords : List String := ["=", "<<"]

def isIn (low high : Char) (c : Char) : Bool := c == '_' || decide (low ≤ c ∧ c ≤ high)

def isDecimal (digits : List Char) : Bool :=
  match digits with
  | [] => false
  | first :: rest => decide ('1' ≤ first ∧ first ≤ '9') && rest.all (isIn '0' '9')

-- One or two digits below sixty.
def isSixtieth : List Char → Bool
  | [c] => decide ('0' ≤ c ∧ c ≤ '9')
  | [c, d] => decide ('0' ≤ c ∧ c ≤ '5' ∧ '0' ≤ d ∧ d ≤ '9')
  | _ => false

def colonParts : List Char → List (List Char)
  | [] => [[]]
  | c :: rest =>
      if c == ':' then [] :: colonParts rest
      else
        match colonParts rest with
        | [] => [[c]]
        | part :: others => (c :: part) :: others

-- The digits of a number by its base. Underscores do not count.
def inBase (base : Nat) (digits : List Char) : Except Fault Nat :=
  let bare := digits.filter (· != '_')
  if bare.isEmpty || (base == 10 && bare.length > Numeral.maxDigits) then .error unreadable
  else .ok (ofDigits base bare)

def inSixties (parts : List (List Char)) : Except Fault Nat :=
  parts.foldlM (fun n part => do return n * 60 + (← inBase 10 part)) 0

-- A number without its sign, if the text is one. A zero in front makes it octal, and colons
-- divide it into sixtieths.
def natural? (text : List Char) : Option (Except Fault Nat) :=
  match text with
  | '0' :: 'b' :: digits =>
      if !digits.isEmpty && digits.all (isIn '0' '1') then some (inBase 2 digits) else none
  | '0' :: 'x' :: digits =>
      if !digits.isEmpty && digits.all (fun c => c == '_' || (hexValue? c).isSome) then
        some (inBase 16 digits)
      else none
  | '0' :: digits => if digits.all (isIn '0' '7') then some (inBase 8 ('0' :: digits)) else none
  | _ =>
      match colonParts text with
      | [digits] => if isDecimal digits then some (inBase 10 digits) else none
      | first :: others =>
          if isDecimal first && others.all isSixtieth then some (inSixties (first :: others))
          else none
      | [] => none

def integer? (text : List Char) : Option (Except Fault Int) :=
  match text with
  | '-' :: rest => (natural? rest).map fun n => n.map fun n => -(n : Int)
  | '+' :: rest => (natural? rest).map fun n => n.map Int.ofNat
  | _ => (natural? text).map fun n => n.map Int.ofNat

-- What a scalar without quotes means.
def plainScalar (text : String) : Except Fault Scalar :=
  if text ∈ keyWords then .error .invalid
  else if text ∈ nullWords then .ok .null
  else if text ∈ trueWords then .ok (.bool true)
  else if text ∈ falseWords then .ok (.bool false)
  else
    match integer? text.toList with
    | some n => n.map .int
    | none => .ok (.text text)

end Rehearsal.Yaml
