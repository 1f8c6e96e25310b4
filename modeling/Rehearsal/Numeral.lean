import Rehearsal.Text.Blank
import Rehearsal.Text.Digit

namespace Rehearsal.Numeral

-- Numerals with more digits are neither read nor written.
def maxDigits : Nat := 4300

-- Digits of any script, with at most one underscore between two of them.
def digits? : List Char → Option (List Nat)
  | [] => none
  | [c] => (Text.decimalValue? c).map ([·])
  | c :: next :: rest =>
      (Text.decimalValue? c).bind fun d =>
        (if next == '_' then digits? rest else digits? (next :: rest)).map (d :: ·)

def ofDigits (digits : List Nat) : Nat := digits.foldl (fun value d => 10 * value + d) 0

def magnitude? (text : List Char) : Option Nat :=
  (digits? text).bind fun digits =>
    if digits.length ≤ maxDigits then some (ofDigits digits) else none

-- An optional sign and digits.
def read? : List Char → Option Int
  | '+' :: rest => (magnitude? rest).map Int.ofNat
  | '-' :: rest => (magnitude? rest).map fun n => -(n : Int)
  | text => (magnitude? text).map Int.ofNat

-- Decimal digits with a sign in front of negative numbers.
def write? (n : Int) : Option String :=
  let digits := Nat.repr n.natAbs
  if digits.length ≤ maxDigits then some (if n < 0 then "-" ++ digits else digits) else none

end Rehearsal.Numeral
