import Rehearsal.Feature.Fence
import Rehearsal.Proofs.Text.Blank
import Rehearsal.Proofs.Text.Lines
import Rehearsal.Proofs.Text.Replace

namespace Rehearsal.Fence

-- A line of a doc string as it stands between the fences.
def escaped (mark : Char) (line : List Char) : List Char :=
  Text.replace (delimiter mark) (escapedDelimiter mark) line

variable {mark : Char}

theorem isSingleLine_escaped (hmark : Text.isLineBreak mark = false) {line : List Char}
    (h : Text.IsSingleLine line) : Text.IsSingleLine (escaped mark line) := by
  have hescape : Text.IsSingleLine (escapedDelimiter mark) := by
    simp only [escapedDelimiter, Text.isSingleLine_cons, hmark, Text.isSingleLine_nil]
    decide
  intro c hc
  exact (Text.mem_replaceFrom hc).elim (hescape c) (h c)

theorem delimiter_of_cons {text : List Char} (h : delimiter mark <+: text) :
    delimiter mark <+: mark :: text := by
  obtain ⟨tail, rfl⟩ := h
  exact ⟨mark :: tail, rfl⟩

-- A mark that shows after escaping was there before it.
theorem escaped_eq_mark_cons (hmark : mark ≠ '\\') {text rest : List Char}
    (h : escaped mark text = mark :: rest) :
    ¬delimiter mark <+: text ∧ ∃ tail, text = mark :: tail ∧ rest = escaped mark tail := by
  have hnot : ¬delimiter mark <+: text := by
    rintro ⟨tail, rfl⟩
    rw [escaped, Text.replace_append (by simp [delimiter])] at h
    cases h
    exact hmark rfl
  cases text with
  | nil => cases h
  | cons c tail =>
      rw [escaped, Text.replace_cons hnot] at h
      cases h
      exact ⟨hnot, tail, rfl, rfl⟩

-- So was a backslash, unless it escapes a delimiter.
theorem escaped_eq_backslash_cons {text rest : List Char} (hnot : ¬delimiter mark <+: text)
    (h : escaped mark text = '\\' :: rest) :
    ∃ tail, text = '\\' :: tail ∧ rest = escaped mark tail := by
  cases text with
  | nil => cases h
  | cons c tail =>
      rw [escaped, Text.replace_cons hnot] at h
      cases h
      exact ⟨tail, rfl, rfl⟩

-- An escaped delimiter has the marks and backslashes of a delimiter that was not replaced, or of
-- one that was replaced at its place.
theorem escapedDelimiter_of_escaped (hmark : mark ≠ '\\') {text : List Char}
    (h : escapedDelimiter mark <+: '\\' :: escaped mark text) :
    escapedDelimiter mark <+: '\\' :: text := by
  obtain ⟨rest, hrest⟩ := h
  simp only [escapedDelimiter, List.cons_append, List.nil_append, List.cons.injEq, true_and]
    at hrest
  obtain ⟨hnot₁, text₁, rfl, h₁⟩ := escaped_eq_mark_cons hmark hrest.symm
  obtain ⟨text₂, rfl, h₂⟩ :=
    escaped_eq_backslash_cons (fun h => hnot₁ (delimiter_of_cons h)) h₁.symm
  obtain ⟨hnot₃, text₃, rfl, h₃⟩ := escaped_eq_mark_cons hmark h₂.symm
  obtain ⟨text₄, rfl, h₄⟩ :=
    escaped_eq_backslash_cons (fun h => hnot₃ (delimiter_of_cons h)) h₃.symm
  obtain ⟨-, text₅, rfl, -⟩ := escaped_eq_mark_cons hmark h₄.symm
  exact ⟨text₅, rfl⟩

-- Reading takes the escapes of a line back.
theorem replace_escaped (hmark : mark ≠ '\\') {line : List Char}
    (h : ¬escapedDelimiter mark <:+: line) :
    Text.replace (escapedDelimiter mark) (delimiter mark) (escaped mark line) = line := by
  induction hlen : line.length using Nat.strong_induction_on generalizing line with
  | _ n ih =>
      by_cases hmatch : delimiter mark <+: line
      · obtain ⟨tail, rfl⟩ := hmatch
        have hshort : tail.length < n := by simp [← hlen, delimiter]; omega
        have htail : ¬escapedDelimiter mark <:+: tail := fun hin =>
          h (hin.trans (List.suffix_append _ _).isInfix)
        rw [escaped, Text.replace_append (by simp [delimiter]),
          Text.replace_append (by simp [escapedDelimiter]), ← escaped, ih _ hshort htail rfl]
      · cases line with
        | nil => rfl
        | cons c tail =>
            have hshort : tail.length < n := by simp [← hlen]
            have htail : ¬escapedDelimiter mark <:+: tail := fun hin =>
              h (hin.trans (List.suffix_cons _ _).isInfix)
            have hnot : ¬escapedDelimiter mark <+: c :: escaped mark tail := by
              intro hpre
              have hc : c = '\\' := (List.cons_prefix_cons.mp hpre).1.symm
              subst hc
              exact h (escapedDelimiter_of_escaped hmark hpre).isInfix
            rw [escaped, Text.replace_cons hmatch, ← escaped, Text.replace_cons hnot,
              ih _ hshort htail rfl]

-- No line of a doc string closes it.
theorem trim_escaped_ne (hmark : mark ≠ '\\') (line : List Char) :
    Text.trim (escaped mark line) ≠ delimiter mark := by
  have hne : delimiter mark ≠ [] := by simp [delimiter]
  intro h
  obtain ⟨hnone, hsame⟩ | ⟨front, back, hshown⟩ :=
    @Text.replace_cases _ (escapedDelimiter mark) hne line
  · rw [escaped, hsame] at h
    exact hnone (h ▸ Text.trim_infix line)
  · have hmem : '\\' ∈ escaped mark line := by
      rw [escaped, ← hshown]
      simp [escapedDelimiter]
    have htrim := Text.mem_trim (by decide) hmem
    rw [h] at htrim
    simp [delimiter, hmark.symm] at htrim

-- A line loses only blanks, and all that it has as far as the fence is indented.
def Keeps (indent : Nat) (line kept : List Char) : Prop :=
  ∃ removed, line = removed ++ kept ∧ (∀ c ∈ removed, Text.isBlank c) ∧ removed.length ≤ indent ∧
    (removed.length < indent → ∀ c ∈ kept.head?, Text.isBlank c = false)

theorem keeps_unindented (indent : Nat) (line : List Char) :
    Keeps indent line (unindented indent line) := by
  unfold unindented
  split
  · rename_i hblank
    refine ⟨line.take indent, (List.take_append_drop indent line).symm, List.all_eq_true.mp hblank,
      List.length_take_le indent line, fun hshort => ?_⟩
    have hnil : line.drop indent = [] := by
      rw [List.length_take] at hshort
      exact List.drop_eq_nil_of_le (by omega)
    simp [hnil]
  · rename_i hother
    refine ⟨line.takeWhile Text.isBlank, List.takeWhile_append_dropWhile.symm,
      fun c hc => List.mem_takeWhile_imp hc, ?_, fun _ => Text.head?_trimStart line⟩
    -- Blanks beyond the indentation would all be within it.
    by_contra hlong
    have hfront : line.take indent <+: line.takeWhile Text.isBlank :=
      List.prefix_of_prefix_length_le (List.take_prefix indent line)
        (List.takeWhile_prefix Text.isBlank)
        ((List.length_take_le indent line).trans (Nat.le_of_not_le hlong))
    exact hother (List.all_eq_true.mpr fun c hc => List.mem_takeWhile_imp (hfront.subset hc))

theorem unindented_append {margin : List Char} (h : ∀ c ∈ margin, Text.isBlank c)
    (line : List Char) : unindented margin.length (margin ++ line) = line := by
  simp [unindented, List.all_eq_true.mpr h]

-- A line that was escaped and indented like the fence is read as it was.
theorem push_escaped {fence : Fence} (hmark : fence.mark ≠ '\\') {margin line : List Char}
    (hmargin : ∀ c ∈ margin, Text.isBlank c) (hindent : fence.indent = margin.length)
    (h : ¬escapedDelimiter fence.mark <:+: line) :
    fence.push (margin ++ escaped fence.mark line) =
      { fence with lines := fence.lines ++ [String.ofList line] } := by
  rw [push, contentLine, hindent, unindented_append hmargin, replace_escaped hmark h]

theorem isClosedBy_escaped {fence : Fence} (hmark : fence.mark ≠ '\\') {margin : List Char}
    (hmargin : ∀ c ∈ margin, Text.isBlank c) (line : List Char) :
    fence.isClosedBy (margin ++ escaped fence.mark line) = false := by
  rw [isClosedBy, Text.trim_blank_append hmargin]
  simpa using trim_escaped_ne hmark line

end Rehearsal.Fence
