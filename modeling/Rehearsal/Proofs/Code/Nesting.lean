import Rehearsal.Proofs.Code.ExprText

namespace Rehearsal.Code

-- Lines with the blocks below them.
inductive Nesting where
  | nil
  | cons (line : String) (inner next : Nesting)
  deriving DecidableEq, Repr

namespace Nesting

protected def append : Nesting → Nesting → Nesting
  | .nil, other => other
  | .cons line inner next, other => .cons line inner (next.append other)

instance : Append Nesting := ⟨Nesting.append⟩

def single (line : String) : Nesting := .cons line .nil .nil

def block (heading : String) (inner : Nesting) : Nesting := .cons heading inner .nil

def orPass : Nesting → Nesting
  | .nil => single "pass"
  | lines => lines

-- Without handlers the exception goes on.
def orRethrow : Nesting → Nesting
  | .nil => block "except Exception:" (single "raise")
  | clauses => clauses

def underElse : Nesting → Nesting
  | .nil => .nil
  | lines => block "else:" lines

def first? : Nesting → Option String
  | .nil => none
  | .cons line _ _ => some line

@[simp] theorem nil_append (n : Nesting) : .nil ++ n = n := rfl

@[simp] theorem cons_append (line : String) (inner next n : Nesting) :
    .cons line inner next ++ n = .cons line inner (next ++ n) := rfl

@[simp] theorem append_nil (n : Nesting) : n ++ .nil = n := by
  induction n with
  | nil => rfl
  | cons line inner next _ ih => rw [cons_append, ih]

end Nesting

-- A line without its indentation, and how many units that is.
structure Placed where
  depth : Nat
  text : String
  deriving DecidableEq, Repr

def margin (unit : String) : Nat → String
  | 0 => ""
  | depth + 1 => unit ++ margin unit depth

namespace Placed

def line (unit : String) (p : Placed) : String := margin unit p.depth ++ p.text

def indentation (line : String) : List Char := line.toList.takeWhile Text.isBlank

-- The indentation counts in whole units.
def ofLine (unit line : String) : Placed :=
  ⟨(indentation line).length / unit.length, String.ofList (line.toList.dropWhile Text.isBlank)⟩

end Placed

-- Below each line come its block and then what follows it.
def Nesting.placed (depth : Nat) : Nesting → List Placed
  | .nil => []
  | .cons line inner next => ⟨depth, line⟩ :: (inner.placed (depth + 1) ++ next.placed depth)

-- A line takes the deeper lines after it for its block.
def grouped : List Placed → Nesting
  | [] => .nil
  | p :: rest =>
      .cons p.text (grouped (rest.takeWhile (p.depth < ·.depth)))
        (grouped (rest.dropWhile (p.depth < ·.depth)))
termination_by lines => lines.length
decreasing_by
  · exact Nat.lt_succ_of_le (List.takeWhile_sublist _).length_le
  · exact Nat.lt_succ_of_le (List.dropWhile_sublist _).length_le

-- The lines that open a block.
inductive Heading where
  | repeated
  | attempt
  | handler
  | condition
  | alternative
  deriving DecidableEq, Repr

namespace Heading

def word : Heading → String
  | .repeated => "while"
  | .attempt => "try"
  | .handler => "except"
  | .condition => "if"
  | .alternative => "else"

def all : List Heading := [.repeated, .attempt, .handler, .condition, .alternative]

-- The word comes first, alone or with more behind a blank, and a colon last.
def heads (h : Heading) (text : String) : Bool :=
  text.toList = h.word.toList ++ [':'] ||
    (h.word.toList ++ [' ']).isPrefixOf text.toList && text.toList.getLast? = some ':'

end Heading

def heading? (text : String) : Option Heading := Heading.all.find? (·.heads text)

-- What the place of a line among the others says about them.
structure Fits (before : List Placed) (p : Placed) (after : List Placed) : Prop where
  deeper : (heading? p.text).isSome → ∃ q rest, after = q :: rest ∧ q.depth = p.depth + 1
  level : heading? p.text = none → ∀ q ∈ after.head?, q.depth ≤ p.depth
  handled : heading? p.text = some .attempt → ∃ inner q rest, after = inner ++ q :: rest ∧
    (∀ l ∈ inner, p.depth < l.depth) ∧ q.depth = p.depth ∧ heading? q.text = some .handler
  paired : heading? p.text = some .alternative → ∃ front q inner, before = front ++ q :: inner ∧
    (∀ l ∈ inner, p.depth < l.depth) ∧ q.depth = p.depth ∧ heading? q.text = some .condition

structure IsWellNested (lines : List Placed) : Prop where
  start : ∀ p ∈ lines.head?, p.depth = 0
  fits : ∀ before p after, lines = before ++ p :: after → Fits before p after

namespace Nesting

def StartsWith (h : Heading) (n : Nesting) : Prop := ∃ line ∈ n.first?, heading? line = some h

-- Headings and no other lines have blocks, and those that belong together follow each other.
inductive IsProper : Nesting → Prop where
  | nil : IsProper .nil
  | cons {line : String} {inner next : Nesting}
      (opens : Opens line)
      (owns : (heading? line).isSome ↔ inner ≠ .nil)
      (inward : ¬inner.StartsWith .alternative)
      (handled : heading? line = some .attempt → next.StartsWith .handler)
      (paired : next.StartsWith .alternative → heading? line = some .condition)
      (inner_proper : IsProper inner)
      (next_proper : IsProper next) :
      IsProper (.cons line inner next)

end Nesting

theorem toList_margin (unit : String) (depth : Nat) :
    (margin unit depth).toList = (List.replicate depth unit.toList).flatten := by
  induction depth with
  | zero => rfl
  | succ depth ih =>
      rw [margin, String.toList_append, ih, List.replicate_succ, List.flatten_cons]

theorem length_margin (unit : String) (depth : Nat) :
    (margin unit depth).toList.length = depth * unit.length := by
  rw [toList_margin, List.length_flatten, List.map_replicate, List.sum_replicate_nat,
    String.length_toList]

namespace Placed

variable {unit : String}

-- The blanks in front of a line are the margin of its depth.
theorem toList_line (hblank : ∀ c ∈ unit.toList, Text.isBlank c) {p : Placed} (h : Opens p.text) :
    (p.line unit).toList.takeWhile Text.isBlank = (margin unit p.depth).toList ∧
      (p.line unit).toList.dropWhile Text.isBlank = p.text.toList := by
  have hmargin : ∀ c ∈ (margin unit p.depth).toList, Text.isBlank c := by
    intro c hc
    rw [toList_margin] at hc
    obtain ⟨copy, hcopy, hmem⟩ := List.mem_flatten.mp hc
    rw [List.eq_of_mem_replicate hcopy] at hmem
    exact hblank c hmem
  obtain ⟨c, hc, hfirst⟩ := h
  obtain ⟨rest, hrest⟩ := List.head?_eq_some_iff.mp hc
  rw [line, String.toList_append, hrest, List.takeWhile_append_of_pos hmargin,
    List.dropWhile_append_of_pos hmargin]
  simp [hfirst]

theorem ofLine_line (hunit : unit ≠ "") (hblank : ∀ c ∈ unit.toList, Text.isBlank c) {p : Placed}
    (h : Opens p.text) : ofLine unit (p.line unit) = p := by
  obtain ⟨hfront, hback⟩ := toList_line hblank h
  have hpos : 0 < unit.length := by
    rw [Nat.pos_iff_ne_zero, Ne, String.length_eq_zero_iff]
    exact hunit
  rw [ofLine, indentation, hfront, hback, length_margin, Nat.mul_div_cancel _ hpos,
    String.ofList_toList]

end Placed

namespace Nesting

@[simp] theorem placed_append (depth : Nat) (n m : Nesting) :
    (n ++ m).placed depth = n.placed depth ++ m.placed depth := by
  induction n with
  | nil => rfl
  | cons line inner next _ ih => simp [placed, ih]

theorem le_depth {n : Nesting} {depth : Nat} : ∀ p ∈ n.placed depth, depth ≤ p.depth := by
  induction n generalizing depth with
  | nil => simp [placed]
  | cons line inner next ihinner ihnext =>
      simp only [placed, List.forall_mem_cons, List.forall_mem_append]
      exact ⟨Nat.le_refl depth, fun p hp => Nat.le_of_succ_le (ihinner p hp), ihnext⟩

theorem head?_placed (n : Nesting) (depth : Nat) :
    (n.placed depth).head? = n.first?.map (⟨depth, ·⟩) := by
  cases n <;> rfl

-- The lines of a block are indented once more than its heading.
theorem indented_placed {n : Nesting} {depth : Nat} (unit : String)
    (h : ∀ p ∈ n.placed depth, Opens p.text) :
    indented unit ((n.placed depth).map (·.line unit)) =
      (n.placed (depth + 1)).map (·.line unit) := by
  induction n generalizing depth with
  | nil => rfl
  | cons line inner next ihinner ihnext =>
      simp only [placed, List.forall_mem_cons, List.forall_mem_append] at h
      obtain ⟨hline, hinner, hnext⟩ := h
      have hfirst : indented unit [Placed.line unit ⟨depth, line⟩] =
          [Placed.line unit ⟨depth + 1, line⟩] := by
        simp [indented, Placed.line, margin, String.append_assoc, hline.ne_empty]
      have hparts := congrArg₂ (· ++ ·) hfirst
        (congrArg₂ (· ++ ·) (ihinner hinner) (ihnext hnext))
      simpa [placed, indented] using hparts

-- Grouping the lines by their depth gives the nesting back.
theorem grouped_placed (n : Nesting) (depth : Nat) : grouped (n.placed depth) = n := by
  induction n generalizing depth with
  | nil => rw [placed, grouped]
  | cons line inner next ihinner ihnext =>
      have hinner : ∀ p ∈ inner.placed (depth + 1), decide (depth < p.depth) = true :=
        fun p hp => decide_eq_true (le_depth p hp)
      have htake : (next.placed depth).takeWhile (depth < ·.depth) = [] := by
        cases next <;> simp [placed]
      have hdrop : (next.placed depth).dropWhile (depth < ·.depth) = next.placed depth := by
        cases next <;> simp [placed]
      rw [placed, grouped, List.takeWhile_append_of_pos hinner, List.dropWhile_append_of_pos hinner,
        htake, hdrop, List.append_nil, ihinner, ihnext]

end Nesting

theorem heading?_of_ends {text : String} (h : Ends text) : heading? text = none := by
  obtain ⟨c, hc, hcolon⟩ := h
  rw [heading?, List.find?_eq_none]
  intro h _
  have hlast : text.toList.getLast? ≠ some ':' := by
    rw [Option.mem_def.mp hc]
    simpa using hcolon
  have halone : text.toList ≠ h.word.toList ++ [':'] := by
    intro heq
    rw [heq, List.getLast?_concat] at hlast
    exact hlast rfl
  simp [Heading.heads, hlast, halone]

theorem heading?_of_word (h : Heading) (text : String) :
    heading? (h.word ++ " " ++ text ++ ":") = some h := by
  have hlast : (' ' :: (text.toList ++ [':'])).getLast? = some ':' := by
    rw [← List.cons_append, List.getLast?_concat]
  cases h <;> simp [heading?, Heading.all, Heading.heads, Heading.word, hlast]

theorem append_eq_append_cons {α : Type} {first second before after : List α} {a : α}
    (h : first ++ second = before ++ a :: after) :
    (∃ rest, first = before ++ a :: rest ∧ after = rest ++ second) ∨
      ∃ rest, before = first ++ rest ∧ second = rest ++ a :: after := by
  obtain ⟨rest, hbefore, hsecond⟩ | ⟨rest, hfirst, hafter⟩ := List.append_eq_append_iff.mp h
  · exact .inr ⟨rest, hbefore, hsecond⟩
  · cases rest with
    | nil => exact .inr ⟨[], by simpa using hfirst.symm, by simpa using hafter.symm⟩
    | cons b rest =>
        obtain ⟨rfl, hrest⟩ := List.cons.inj hafter
        exact .inl ⟨rest, hfirst, hrest⟩

namespace Nesting

theorem startsWith_cons {h : Heading} {line : String} {inner next : Nesting} :
    (Nesting.cons line inner next).StartsWith h ↔ heading? line = some h := by
  simp [StartsWith, first?]

theorem startsWith_append {h : Heading} {n m : Nesting} (hn : (n ++ m).StartsWith h) :
    n.StartsWith h ∨ n = .nil ∧ m.StartsWith h := by
  cases n with
  | nil => exact .inr ⟨rfl, hn⟩
  | cons line inner next => exact .inl hn

theorem StartsWith.append {h : Heading} {n : Nesting} (hn : n.StartsWith h) (m : Nesting) :
    (n ++ m).StartsWith h := by
  cases n with
  | nil => simp [StartsWith, first?] at hn
  | cons line inner next => exact hn

theorem StartsWith.exists_cons {h : Heading} {n : Nesting} (hn : n.StartsWith h) :
    ∃ line inner next, n = .cons line inner next ∧ heading? line = some h := by
  cases n with
  | nil => simp [StartsWith, first?] at hn
  | cons line inner next => exact ⟨line, inner, next, rfl, startsWith_cons.mp hn⟩

theorem IsProper.append {n m : Nesting} (hn : n.IsProper) (hm : m.IsProper)
    (hstart : ¬m.StartsWith .alternative) : (n ++ m).IsProper := by
  induction hn with
  | nil => exact hm
  | cons opens owns inward handled paired inner_proper _ _ ih =>
      refine .cons opens owns inward (fun h => (handled h).append m) ?_ inner_proper ih
      intro h
      obtain hnext | ⟨-, hother⟩ := startsWith_append h
      · exact paired hnext
      · exact absurd hother hstart

theorem IsProper.opens {n : Nesting} (h : n.IsProper) (depth : Nat) :
    ∀ p ∈ n.placed depth, Opens p.text := by
  induction h generalizing depth with
  | nil => simp [placed]
  | cons opens _ _ _ _ _ _ ihinner ihnext =>
      simp only [placed, List.forall_mem_cons, List.forall_mem_append]
      exact ⟨opens, ihinner (depth + 1), ihnext depth⟩

theorem head?_placed_append {n : Nesting} {depth : Nat} {after : List Placed}
    (h : ∀ q ∈ after.head?, q.depth ≤ depth) :
    ∀ q ∈ (n.placed depth ++ after).head?, q.depth ≤ depth := by
  cases n with
  | nil => exact h
  | cons line inner next => simp [placed]

-- The lines of a proper nesting fit wherever lines go on that are no deeper, and where an
-- alternative finds its condition.
theorem IsProper.fits {n : Nesting} (h : n.IsProper) {depth : Nat} {before after : List Placed}
    (hafter : ∀ q ∈ after.head?, q.depth ≤ depth)
    (hbefore : n.StartsWith .alternative → ∃ front q inner, before = front ++ q :: inner ∧
      (∀ l ∈ inner, depth < l.depth) ∧ q.depth = depth ∧ heading? q.text = some .condition) :
    ∀ front p back, n.placed depth = front ++ p :: back →
      Fits (before ++ front) p (back ++ after) := by
  induction h generalizing depth before after with
  | nil => simp [placed]
  | @cons line inner next opens owns inward handled paired _ _ ihinner ihnext =>
      intro front p back hsplit
      cases front with
      | nil =>
          obtain ⟨rfl, rfl⟩ := List.cons.inj hsplit
          rw [List.append_nil, List.append_assoc]
          constructor
          · intro hheading
            cases inner with
            | nil => exact absurd rfl (owns.mp hheading)
            | cons first own others => exact ⟨_, _, rfl, rfl⟩
          · intro hheading
            have hinner : inner = .nil := by
              by_contra hne
              simpa [hheading] using owns.mpr hne
            rw [hinner]
            exact head?_placed_append hafter
          · intro hheading
            obtain ⟨first, own, others, rfl, hfirst⟩ := (handled hheading).exists_cons
            exact ⟨inner.placed (depth + 1), ⟨depth, first⟩, _, rfl, le_depth, rfl, hfirst⟩
          · exact fun hheading => hbefore (startsWith_cons.mpr hheading)
      | cons first front =>
          obtain ⟨rfl, hrest⟩ := List.cons.inj hsplit
          obtain ⟨rest, hown, rfl⟩ | ⟨rest, rfl, hnext⟩ := append_eq_append_cons hrest
          · have hfits := @ihinner (depth + 1) (before ++ [⟨depth, line⟩]) (next.placed depth ++ after)
              (fun q hq => Nat.le_succ_of_le (head?_placed_append hafter q hq))
              (fun halternative => absurd halternative inward) front p rest hown
            simpa using hfits
          · have hfits := @ihnext depth (before ++ ⟨depth, line⟩ :: inner.placed (depth + 1)) after
              hafter
              (fun halternative => ⟨before, ⟨depth, line⟩, inner.placed (depth + 1), rfl, le_depth,
                rfl, paired halternative⟩) rest p back hnext
            simpa using hfits

theorem IsProper.isWellNested {n : Nesting} (h : n.IsProper) (hstart : ¬n.StartsWith .alternative) :
    IsWellNested (n.placed 0) where
  start := by
    rw [head?_placed]
    cases n <;> simp [first?]
  fits := by
    intro before p after hsplit
    have hfits := @IsProper.fits n h 0 [] [] (by simp) (fun h => absurd h hstart) before p after hsplit
    simpa using hfits

end Nesting

end Rehearsal.Code
