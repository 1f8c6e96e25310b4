import Rehearsal.Log.Basic
import Rehearsal.Retry.Directive

namespace Rehearsal

-- A request that is not provided for.
structure Unsupported where
  message : String := ""
  deriving DecidableEq, Repr

-- What happens for a tag that a policy claims.
inductive TagPolicy.Effect where
  | nothing
  | skip
  | note
  deriving DecidableEq, Repr

-- A rule for some tags. Policies with a lower priority value come first.
structure TagPolicy where
  name : String
  priority : Int := 100
  -- Whether a tag is claimed. A policy that is a mere contract does not say.
  claims : String → Option Bool
  effect : TagPolicy.Effect := .nothing
  -- Claimed tags are no categories.
  hides : Bool := false
  -- Later policies do not see claimed tags.
  exclusive : Bool := false

-- What the policies made of the tags of a class or a method.
structure Decoration where
  categories : List String := []
  skips : Nat := 0
  notes : List (String × String) := []
  deriving DecidableEq, Repr

namespace TagPolicy

def retry : TagPolicy :=
  { name := "retry", priority := 10, claims := fun tag => some (Retry.isTag tag)
    hides := true, exclusive := true }

def ignore : TagPolicy :=
  { name := "ignore", claims := fun tag => some (TagName.isMatch "ignore" tag), effect := .skip }

def contract : TagPolicy := { name := "contract", claims := fun _ => none }

def place (policy : TagPolicy) : List TagPolicy → List TagPolicy
  | [] => [policy]
  | first :: rest =>
      if policy.priority ≤ first.priority then policy :: first :: rest
      else first :: place policy rest

-- By priority. Policies of one priority keep their order.
def sorted (policies : List TagPolicy) : List TagPolicy := policies.foldr place []

-- What the policies do with one tag: whether they hide it, skips and notes.
structure Verdict where
  hidden : Bool := false
  skips : Nat := 0
  notes : List (String × String) := []
  deriving DecidableEq, Repr

def record (policy : TagPolicy) (tag : String) (verdict : Verdict) : Verdict :=
  { hidden := verdict.hidden || policy.hides
    skips := if policy.effect = .skip then verdict.skips + 1 else verdict.skips
    notes :=
      if policy.effect = .note then verdict.notes ++ [(policy.name, tag)] else verdict.notes }

def judge (tag : String) (verdict : Verdict) : List TagPolicy → Except Unsupported Verdict
  | [] => .ok verdict
  | policy :: rest =>
      match policy.claims tag with
      | none => .error {}
      | some false => judge tag verdict rest
      | some true =>
          let verdict := record policy tag verdict
          if policy.exclusive then .ok verdict else judge tag verdict rest

-- Applies the policies in the given order. Tags that none of them hides are the categories.
def decorateFrom (policies : List TagPolicy) (decoration : Decoration) :
    List String → Run Unsupported Decoration
  | [] => pure decoration
  | tag :: rest => do
      let verdict ← Run.ofExcept (judge tag {} policies)
      if verdict.hidden then Run.debug ("Tag '" ++ tag ++ "' removed from categories")
      decorateFrom policies
        { categories :=
            if verdict.hidden then decoration.categories else decoration.categories ++ [tag]
          skips := decoration.skips + verdict.skips
          notes := decoration.notes ++ verdict.notes } rest

def decorate (policies : List TagPolicy) (tags : List String) : Run Unsupported Decoration :=
  decorateFrom policies {} tags

end TagPolicy

end Rehearsal
