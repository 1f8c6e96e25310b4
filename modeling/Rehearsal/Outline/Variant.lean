import Rehearsal.Feature.Basic
import Rehearsal.Identifier

namespace Rehearsal.Outline

def numberedSet (index : Nat) : String := "ExampleSet" ++ toString index

-- A set is known by its name, or by its number where it has none.
def setIdentifier (examples : Examples) (index : Nat) : String :=
  if examples.name.isEmpty then numberedSet index else Identifier.camel examples.name

-- A single set without a name needs no identifier. Names that collide give way to numbers.
def setIdentifiers (sets : List Examples) : List (Option String) :=
  match sets with
  | [{ name := "", .. }] => [none]
  | _ =>
      let identifiers := sets.mapIdx fun index examples => setIdentifier examples index
      if identifiers.Nodup then identifiers.map some
      else sets.mapIdx fun index _ => some (numberedSet index)

-- The first cell of a row. A row without cells counts as empty, but a missing text is no name.
def firstCell? : List (Option String) → Option String
  | [] => some ""
  | cell :: _ => cell

-- A row is known by its first cell if that gives every row a different identifier, else by its
-- number.
def variantNames (first : List String) : List String :=
  let identifiers := first.map Identifier.bare
  if identifiers.all (fun identifier => !identifier.isEmpty) && identifiers.Nodup then first
  else first.mapIdx fun index _ => "Variant " ++ toString index

def methodName (scenario : Scenario) : String := Identifier.pascal scenario.name

def variantMethodName (scenario : Scenario) (set : Option String) (variant : String) : String :=
  match set with
  | some set => methodName scenario ++ "_" ++ set ++ "_" ++ Identifier.bare variant
  | none => methodName scenario ++ "_" ++ Identifier.bare variant

end Rehearsal.Outline
