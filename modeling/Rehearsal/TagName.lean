import Rehearsal.Text.Case

namespace Rehearsal.TagName

-- A tag may be written with its mark or without.
def plain (name : String) : List Char :=
  match name.toList with
  | '@' :: rest => rest
  | chars => chars

-- An expected name may carry any number of marks. Case does not count.
def expectedKey (expected : String) : List Char :=
  Text.lower (expected.toList.dropWhile (· == '@'))

def key (name : String) : List Char := Text.lower (plain name)

def isMatch (expected name : String) : Bool := key name == expectedKey expected

-- The value of a tag "expected:value". The cut counts the characters of the expected key.
def value? (expected name : String) : Option String :=
  let opener := expectedKey expected ++ [':']
  if opener.isPrefixOf (key name) then some (String.ofList ((plain name).drop opener.length))
  else none

def anyMatch (expected : String) (names : List String) : Bool := names.any (isMatch expected)

-- The values in tag order.
def values (expected : String) (names : List String) : List String :=
  names.filterMap (value? expected)

-- A directive is a tag with the expected name, bare or with a value.
def isDirective (expected name : String) : Bool :=
  isMatch expected name || (value? expected name).isSome

def anyDirective (expected : String) (names : List String) : Bool :=
  anyMatch expected names || !(values expected names).isEmpty

end Rehearsal.TagName
