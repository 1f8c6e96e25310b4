import Rehearsal.Proofs.Feature.Effect

namespace Rehearsal

-- The mark of the doc string that a line opens.
def Line.mark? : Line → Option Char
  | .fence mark _ => some mark
  | _ => none

namespace Document

-- The mark of the doc string that is open after a line, given that of the one open before it. A
-- doc string ends at the first line that holds nothing but its delimiter.
def fenceAfter (mark : Option Char) (raw : List Char) : Option Char :=
  match mark with
  | some mark => if Text.trim raw = Fence.delimiter mark then none else some mark
  | none => (Line.ofChars raw).mark?

def openFence (lines : List (List Char)) : Option Char := lines.foldl fenceAfter none

-- A line that stands outside of doc strings, with its number. The line that opens a doc string is
-- one of them.
def outsideFrom (number : Nat) (mark : Option Char) : List (List Char) → List (Nat × Line)
  | [] => []
  | raw :: rest =>
      (if mark = none then [(number, Line.ofChars raw)] else []) ++
        outsideFrom (number + 1) (fenceAfter mark raw) rest

def outside (lines : List (List Char)) : List (Nat × Line) := outsideFrom 1 none lines

theorem outsideFrom_append (number : Nat) (mark : Option Char) (front back : List (List Char)) :
    outsideFrom number mark (front ++ back) =
      outsideFrom number mark front ++
        outsideFrom (number + front.length) (front.foldl fenceAfter mark) back := by
  induction front generalizing number mark with
  | nil => rfl
  | cons raw rest ih =>
      simp only [List.cons_append, outsideFrom, ih, List.append_assoc, List.foldl_cons,
        List.length_cons, Nat.add_assoc, Nat.add_comm 1]

theorem openFence_concat (front : List (List Char)) (raw : List Char) :
    openFence (front ++ [raw]) = fenceAfter (openFence front) raw := by
  rw [openFence, List.foldl_concat, openFence]

theorem outside_concat (front : List (List Char)) (raw : List Char) :
    outside (front ++ [raw]) =
      outside front ++
        if openFence front = none then [(front.length + 1, Line.ofChars raw)] else [] := by
  rw [outside, outsideFrom_append, outside, openFence, Nat.add_comm]
  simp [outsideFrom]

-- Lines are numbered upwards.
theorem pairwise_outsideFrom (number : Nat) (mark : Option Char) (lines : List (List Char)) :
    (outsideFrom number mark lines).Pairwise (fun line later => line.1 < later.1) ∧
      ∀ line ∈ outsideFrom number mark lines, number ≤ line.1 := by
  induction lines generalizing number mark with
  | nil => simp [outsideFrom]
  | cons raw rest ih =>
      obtain ⟨hsorted, hlater⟩ := ih (number + 1) (fenceAfter mark raw)
      rw [outsideFrom]
      split
      · refine ⟨List.pairwise_cons.mpr ⟨hlater, hsorted⟩, ?_⟩
        rintro line (_ | ⟨_, hline⟩)
        · exact Nat.le_refl number
        · exact Nat.le_of_succ_le (hlater line hline)
      · exact ⟨hsorted, fun line hline => Nat.le_of_succ_le (hlater line hline)⟩

end Document

namespace Reading

variable {n : Nat} {raw : List Char} {r r' : Reading} {line : Line}

theorem LineEffect.fence_eq (h : LineEffect n raw r line r') (hf : r.fence = none) :
    r'.fence.map (·.mark) = line.mark? := by
  cases h with
  | language =>
      split <;> rw [hf] <;> rfl
  | fence => rfl
  | _ => simp [hf, Line.mark?]

-- A reading is inside a doc string where the document is.
theorem Effect.fence_eq (h : Effect n raw r r') :
    r'.fence.map (·.mark) = Document.fenceAfter (r.fence.map (·.mark)) raw := by
  cases h with
  | @content fence inside going =>
      have hopen : Text.trim raw ≠ Fence.delimiter fence.mark := by
        simpa [Fence.isClosedBy] using going
      simp [inside, Document.fenceAfter, hopen, Fence.push]
  | @close fence _ _ _ _ inside closing =>
      have hclosed : Text.trim raw = Fence.delimiter fence.mark := by
        simpa [Fence.isClosedBy] using closing
      simp [inside, Document.fenceAfter, hclosed]
  | line outside effect =>
      rw [effect.fence_eq outside, outside]
      rfl

end Reading

end Rehearsal
