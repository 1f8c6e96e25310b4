import Rehearsal.Feature.Row
import Rehearsal.Proofs.Text.Blank
import Rehearsal.Proofs.Text.Lines

namespace Rehearsal.Row

def escaped (c : Char) : List Char :=
  if c = '\n' then ['\\', 'n']
  else if c = '|' ∨ c = '\\' then ['\\', c]
  else [c]

-- The cells as they stand after the first bar of a row.
def ofCells (cells : List (List Char)) : List Char :=
  cells.flatMap fun cell => ' ' :: (cell.flatMap escaped ++ [' ', '|'])

theorem getLast?_ofCells (cells : List (List Char)) :
    ('|' :: ofCells cells).getLast? = some '|' := by
  induction cells using List.reverseRecOn with
  | nil => rfl
  | append_singleton front cell _ =>
      simp [ofCells, List.getLast?_cons, List.getLast?_append]

theorem isSingleLine_ofCells {cells : List (List Char)}
    (h : ∀ cell ∈ cells, ∀ c ∈ cell, Text.isLineBreak c → c = '\n') :
    Text.IsSingleLine (ofCells cells) := by
  refine Text.isSingleLine_flatMap fun cell hcell => ?_
  have hbody : Text.IsSingleLine (cell.flatMap escaped) := by
    refine Text.isSingleLine_flatMap fun c hc => ?_
    unfold escaped
    split_ifs with hfeed hspecial
    · decide
    · obtain rfl | rfl := hspecial <;> decide
    · cases hbreak : Text.isLineBreak c with
      | false => simpa using hbreak
      | true => exact absurd (h cell hcell c hc hbreak) hfeed
  have hend : Text.IsSingleLine [' ', '|'] := by decide
  exact Text.isSingleLine_cons.mpr ⟨by decide, Text.isSingleLine_append.mpr ⟨hbody, hend⟩⟩

theorem marks_cons {c : Char} (h : c ≠ '\\') (rest : List Char) :
    marks (c :: rest) = mark c :: marks rest := by
  cases rest with
  | nil => rfl
  | cons next others => simp [marks, h]

theorem marks_escaped (c : Char) (rest : List Char) :
    marks (escaped c ++ rest) = some c :: marks rest := by
  unfold escaped
  split_ifs with hfeed hspecial
  · subst hfeed
    rfl
  · obtain rfl | rfl := hspecial <;> rfl
  · obtain ⟨hbar, hslash⟩ := not_or.mp hspecial
    rw [List.singleton_append, marks_cons hslash]
    simp [mark, hbar]

theorem marks_flatMap_escaped (cell rest : List Char) :
    marks (cell.flatMap escaped ++ rest) = cell.map some ++ marks rest := by
  induction cell with
  | nil => rfl
  | cons c more ih =>
      rw [List.flatMap_cons, List.append_assoc, marks_escaped, ih]
      rfl

theorem cut_map_some (front cell : List Char) (rest : List (Option Char)) :
    cut front (cell.map some ++ none :: rest) =
      (cut [] rest).map (Text.trim (front ++ cell) :: ·) := by
  induction cell generalizing front with
  | nil => simp [cut]
  | cons c more ih => simp [cut, ih]

theorem trim_of_mem_cut {cell : List Char} {marks : List (Option Char)} {cells : List (List Char)}
    (h : cut cell marks = some cells) : ∀ c ∈ cells, Text.trim c = c := by
  induction marks generalizing cell cells with
  | nil =>
      simp only [cut, Option.ite_none_right_eq_some, Option.some.injEq] at h
      simp [← h.2]
  | cons mark rest ih =>
      cases mark with
      | some c => exact ih h
      | none =>
          obtain ⟨others, hothers, rfl⟩ := Option.map_eq_some_iff.mp h
          exact List.forall_mem_cons.mpr ⟨Text.trim_trim cell, ih hothers⟩

-- Cells are read without the blanks around them.
theorem trimmed_of_mem_cells {text : List Char} {cells : List String}
    (h : cells? text = some cells) : ∀ cell ∈ cells, trimmed cell = cell := by
  obtain ⟨read, hread, rfl⟩ := Option.map_eq_some_iff.mp h
  rw [List.forall_mem_map]
  intro cell hcell
  rw [trimmed, String.toList_ofList, trim_of_mem_cut hread cell hcell]

-- A cell with the blanks that are written around it.
structure Padded where
  before : List Char := []
  cell : List Char
  after : List Char := []
  deriving DecidableEq, Repr

namespace Padded

def written (p : Padded) : List Char := p.before ++ (p.cell.flatMap escaped ++ p.after)

structure IsProper (p : Padded) : Prop where
  before : ∀ c ∈ p.before, Text.isBlank c
  trim : Text.trim p.cell = p.cell
  after : ∀ c ∈ p.after, Text.isBlank c

instance (p : Padded) : Decidable p.IsProper :=
  decidable_of_iff (p.before.all Text.isBlank ∧ Text.trim p.cell = p.cell ∧ p.after.all Text.isBlank)
    ⟨fun h => ⟨List.all_eq_true.mp h.1, h.2.1, List.all_eq_true.mp h.2.2⟩,
      fun h => ⟨List.all_eq_true.mpr h.before, h.trim, List.all_eq_true.mpr h.after⟩⟩

end Padded

-- The padded cells as they stand after the first bar of a row.
def ofPadded (cells : List Padded) : List Char := cells.flatMap fun p => p.written ++ ['|']

theorem marks_blank {pad : List Char} (h : ∀ c ∈ pad, Text.isBlank c) (rest : List Char) :
    marks (pad ++ rest) = pad.map some ++ marks rest := by
  induction pad with
  | nil => rfl
  | cons c more ih =>
      rw [List.forall_mem_cons] at h
      have hslash : c ≠ '\\' := by
        rintro rfl
        exact absurd h.1 (by decide)
      have hbar : c ≠ '|' := by
        rintro rfl
        exact absurd h.1 (by decide)
      rw [List.cons_append, marks_cons hslash, ih h.2]
      simp [mark, hbar]

theorem Padded.marks_written {p : Padded} (h : p.IsProper) (rest : List Char) :
    marks (p.written ++ '|' :: rest) =
      (p.before ++ (p.cell ++ p.after)).map some ++ none :: marks rest := by
  rw [written, List.append_assoc, List.append_assoc, marks_blank h.before, marks_flatMap_escaped,
    marks_blank h.after, marks_cons (by decide)]
  simp [mark]

-- What is written as a row reads as its cells, whatever blanks are around them.
theorem cells?_ofPadded {cells : List Padded} (h : ∀ p ∈ cells, p.IsProper) :
    cells? (ofPadded cells) = some (cells.map fun p => String.ofList p.cell) := by
  have hcut : cut [] (marks (ofPadded cells)) = some (cells.map (·.cell)) := by
    induction cells with
    | nil => rfl
    | cons p rest ih =>
        rw [List.forall_mem_cons] at h
        have hmarks := Padded.marks_written h.1 (ofPadded rest)
        have htrim : Text.trim (p.before ++ (p.cell ++ p.after)) = p.cell := by
          rw [Text.trim_blank_append h.1.before, Text.trim_append_blank h.1.after, h.1.trim]
        rw [ofPadded, List.flatMap_cons, List.append_assoc, List.singleton_append, ← ofPadded,
          hmarks, cut_map_some, ih h.2, List.nil_append, htrim]
        rfl
  rw [cells?, hcut, Option.map_some, List.map_map]
  rfl

theorem cells?_ofCells {cells : List (List Char)} (h : ∀ cell ∈ cells, Text.trim cell = cell) :
    cells? (ofCells cells) = some (cells.map String.ofList) := by
  let padded : List Padded := cells.map fun cell => ⟨[' '], cell, [' ']⟩
  have hproper : ∀ p ∈ padded, p.IsProper := by
    rw [List.forall_mem_map]
    intro cell hcell
    have hspace : ∀ c ∈ [' '], Text.isBlank c := List.forall_mem_singleton.mpr (by decide)
    exact ⟨hspace, h cell hcell, hspace⟩
  have hwritten : ofCells cells = ofPadded padded := by
    simp [ofCells, ofPadded, padded, Padded.written, List.flatMap_map]
  rw [hwritten, cells?_ofPadded hproper, List.map_map]
  rfl

end Rehearsal.Row
