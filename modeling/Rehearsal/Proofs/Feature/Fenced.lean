import Rehearsal.Proofs.Feature.PrintedLine
import Rehearsal.Proofs.Feature.Reading

namespace Rehearsal

-- A doc string as it stands below its step. The blanks before its lines and before the fence that
-- closes it need not be the same.
structure Fenced where
  mark : Mark
  margin : List Char := []
  contentType : Option String := none
  content : List (List Char)
  closing : List Char := []
  deriving DecidableEq, Repr

namespace Fenced

def docString (d : Fenced) : DocString :=
  ⟨some ("\n".intercalate (d.content.map String.ofList)), d.contentType⟩

def openingLine (d : Fenced) : List Char :=
  d.margin ++ (Fence.delimiter d.mark.char ++ (d.contentType.getD "").toList)

def closingLine (d : Fenced) : List Char := d.closing ++ Fence.delimiter d.mark.char

def lines (d : Fenced) : List (List Char) :=
  d.openingLine ::
    (d.content.map fun line => d.margin ++ Fence.escaped d.mark.char line) ++ [d.closingLine]

structure IsWritable (d : Fenced) : Prop where
  margin : ∀ c ∈ d.margin, Text.isBlank c
  contentType : ∀ text ∈ d.contentType, text ≠ "" ∧ IsName text
  content : ∀ line ∈ d.content, ¬Fence.escapedDelimiter d.mark.char <:+: line
  closing : ∀ c ∈ d.closing, Text.isBlank c

instance (d : Fenced) : Decidable d.IsWritable :=
  decidable_of_iff (d.margin.all Text.isBlank ∧
    (∀ text ∈ d.contentType, text ≠ "" ∧ IsName text) ∧
    (∀ line ∈ d.content, ¬Fence.escapedDelimiter d.mark.char <:+: line) ∧
    d.closing.all Text.isBlank)
    ⟨fun h => ⟨List.all_eq_true.mp h.1, h.2.1, h.2.2.1, List.all_eq_true.mp h.2.2.2⟩,
      fun h => ⟨List.all_eq_true.mpr h.margin, h.contentType, h.content,
        List.all_eq_true.mpr h.closing⟩⟩

variable {d : Fenced}

theorem ofChars_openingLine (h : d.IsWritable) :
    Line.ofChars d.openingLine = .fence d.mark.char d.contentType := by
  rw [openingLine, Line.ofChars, Text.trim_blank_append h.margin, ← Line.ofChars,
    Line.ofChars_delimiter d.mark h.contentType]

-- The opening line shows how far the doc string is indented.
theorem length_takeWhile_openingLine (h : d.IsWritable) :
    (d.openingLine.takeWhile Text.isBlank).length = d.margin.length := by
  have hmark : (Fence.delimiter d.mark.char ++ (d.contentType.getD "").toList).takeWhile
      Text.isBlank = [] := by
    cases d.mark <;> rfl
  rw [openingLine, List.takeWhile_append_of_pos h.margin, hmark, List.append_nil]

theorem trim_closingLine (h : d.IsWritable) :
    Text.trim d.closingLine = Fence.delimiter d.mark.char := by
  rw [closingLine, Text.trim_blank_append h.closing]
  cases d.mark <;> decide

end Fenced

-- The last step takes an argument.
def Feature.withArgument (argument : Argument) (feature : Feature) : Feature :=
  feature.updateSteps (updateLast fun step => { step with argument := some argument })

namespace Reading

def withArgument (r : Reading) (argument : Argument) : Reading :=
  { r with feature := r.feature.map (·.withArgument argument), describing := false }

-- Lines that were escaped and indented like the fence are read as they were.
theorem readAll_escaped {r : Reading} {fence : Fence} {margin : List Char}
    {content : List (List Char)} (hfence : r.fence = some fence) (hmark : fence.mark ≠ '\\')
    (hmargin : ∀ c ∈ margin, Text.isBlank c) (hindent : fence.indent = margin.length)
    (h : ∀ line ∈ content, ¬Fence.escapedDelimiter fence.mark <:+: line) (n : Nat) :
    r.readAll n (content.map fun line => margin ++ Fence.escaped fence.mark line) = .ok { r with
      fence := some { fence with lines := fence.lines ++ content.map String.ofList } } := by
  induction content generalizing r fence n with
  | nil => simp [readAll, ← hfence]
  | cons line rest ih =>
      rw [List.forall_mem_cons] at h
      have hnext : r.next n (margin ++ Fence.escaped fence.mark line) = .ok { r with
          fence := some { fence with lines := fence.lines ++ [String.ofList line] } } := by
        simp [next, hfence, Fence.isClosedBy_escaped hmark hmargin,
          Fence.push_escaped hmark hmargin hindent h.1]
      have hrest := @ih { r with
        fence := some { fence with lines := fence.lines ++ [String.ofList line] } } _ rfl hmark
        hindent h.2 (n + 1)
      rw [List.map_cons, readAll, hnext]
      dsimp only at hrest ⊢
      rw [hrest, List.append_assoc]
      rfl

-- A doc string below a step becomes its argument, whatever its lines look like.
theorem readAll_fenced {d : Fenced} (hd : d.IsWritable) {r : Reading} (hfence : r.fence = none)
    (hfree : r.openStep?.any (·.argument.isNone)) (n : Nat) :
    r.readAll n d.lines = .ok (r.withArgument (.docString d.docString)) := by
  let fence : Fence :=
    { mark := d.mark.char, contentType := d.contentType, start := n, indent := d.margin.length }
  let filled : Fence := { fence with lines := d.content.map String.ofList }
  have hopen : r.next n d.openingLine =
      .ok { r with fence := some fence, describing := false } := by
    simp only [next, hfence, Fenced.ofChars_openingLine hd, takeLine, openFence, if_pos hfree,
      Fenced.length_takeWhile_openingLine hd, fence]
  have hinside : Reading.readAll { r with fence := some fence, describing := false } (n + 1)
      (d.content.map fun line => d.margin ++ Fence.escaped d.mark.char line) =
      .ok { r with fence := some filled, describing := false } :=
    @readAll_escaped _ fence _ _ rfl d.mark.char_ne_backslash hd.margin rfl hd.content (n + 1)
  have hclosed : filled.isClosedBy d.closingLine := by
    simp [Fence.isClosedBy, Fenced.trim_closingLine hd, filled, fence]
  have hclose : Reading.closeFence { r with fence := some filled, describing := false } filled =
      r.withArgument (.docString d.docString) := by
    rw [closeFence, withArgument, hfence]
    rfl
  rw [Fenced.lines, List.cons_append, readAll, hopen]
  dsimp only
  rw [readAll_append, hinside]
  simp only [Except.bind, readAll, next, hclosed, if_true, hclose]

end Reading

end Rehearsal
