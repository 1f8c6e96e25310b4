namespace Rehearsal.Text

-- The ranges of a character property, ascending, both ends included.
abbrev Ranges := List (Nat × Nat)

def Ranges.has (ranges : Ranges) (c : Char) : Bool :=
  ranges.any fun (first, last) => first ≤ c.toNat && c.toNat ≤ last

end Rehearsal.Text
