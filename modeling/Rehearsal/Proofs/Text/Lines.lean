import Mathlib.Data.List.Infix
import Rehearsal.Text.Blank
import Rehearsal.Text.Lines

namespace Rehearsal.Text

def IsSingleLine (text : List Char) : Prop := ∀ c ∈ text, isLineBreak c = false

-- Each line with the feed that ends it.
def unlines (lines : List (List Char)) : List Char := lines.flatMap (· ++ ['\n'])

theorem isBlank_of_isLineBreak {c : Char} (h : isLineBreak c) : isBlank c := by
  simp only [isLineBreak, List.mem_cons, List.not_mem_nil, or_false, decide_eq_true_eq] at h
  rcases h with rfl | rfl | rfl | rfl | rfl | rfl | rfl | rfl | rfl | rfl <;> decide

theorem isSingleLine_of_no_blank {text : List Char} (h : ∀ c ∈ text, isBlank c = false) :
    IsSingleLine text := by
  intro c hc
  cases hbreak : isLineBreak c with
  | false => rfl
  | true => exact absurd (isBlank_of_isLineBreak hbreak) (by simp [h c hc])

@[simp] theorem isSingleLine_nil : IsSingleLine [] := by simp [IsSingleLine]

@[simp] theorem isSingleLine_append {front back : List Char} :
    IsSingleLine (front ++ back) ↔ IsSingleLine front ∧ IsSingleLine back := by
  simp [IsSingleLine, or_imp, forall_and]

@[simp] theorem isSingleLine_cons {c : Char} {rest : List Char} :
    IsSingleLine (c :: rest) ↔ isLineBreak c = false ∧ IsSingleLine rest := by
  simp [IsSingleLine]

instance (text : List Char) : Decidable (IsSingleLine text) :=
  decidable_of_iff (text.all fun c => !isLineBreak c) (by simp [IsSingleLine])

theorem isSingleLine_flatMap {α : Type} {f : α → List Char} {as : List α}
    (h : ∀ a ∈ as, IsSingleLine (f a)) : IsSingleLine (as.flatMap f) := by
  intro c hc
  obtain ⟨a, ha, hmem⟩ := List.mem_flatMap.mp hc
  exact h a ha c hmem

theorem forall_mem_intercalate {p : Char → Prop} {gap : List Char} (hgap : ∀ c ∈ gap, p c)
    {words : List (List Char)} (h : ∀ word ∈ words, ∀ c ∈ word, p c) :
    ∀ c ∈ gap.intercalate words, p c := by
  induction words with
  | nil => simp
  | cons word rest ih =>
      cases rest with
      | nil => simpa using h word (by simp)
      | cons next others =>
          rw [List.intercalate_cons_cons, List.forall_mem_append, List.forall_mem_append]
          exact ⟨⟨h word (by simp), hgap⟩, ih fun w hw => h w (List.mem_cons_of_mem word hw)⟩

theorem isSingleLine_intercalate {gap : List Char} (hgap : IsSingleLine gap)
    {words : List (List Char)} (h : ∀ word ∈ words, IsSingleLine word) :
    IsSingleLine (gap.intercalate words) :=
  forall_mem_intercalate hgap h

theorem lines_append_feed {line : List Char} (h : IsSingleLine line) (rest : List Char) :
    lines (line ++ '\n' :: rest) = line :: lines rest := by
  induction line with
  | nil => simp [lines, isLineBreak]
  | cons c more ih =>
      obtain ⟨hc, hmore⟩ := isSingleLine_cons.mp h
      have hne : c ≠ '\r' := by
        rintro rfl
        simp [isLineBreak] at hc
      simp [lines, hne, hc, ih hmore]

theorem lines_unlines {text : List (List Char)} (h : ∀ line ∈ text, IsSingleLine line) :
    lines (unlines text) = text := by
  induction text with
  | nil => rfl
  | cons line rest ih =>
      have hrest := ih fun other hother => h other (List.mem_cons_of_mem line hother)
      simp only [unlines, List.flatMap_cons, List.append_assoc, List.singleton_append] at hrest ⊢
      rw [lines_append_feed (h line (by simp)), hrest]

theorem isSingleLine_of_infix {part text : List Char} (h : part <:+: text)
    (htext : IsSingleLine text) : IsSingleLine part :=
  fun c hc => htext c (h.mem hc)

theorem isSingleLine_of_mem_lines {text : List Char} : ∀ line ∈ lines text, IsSingleLine line := by
  induction text with
  | nil => simp [lines]
  | cons c rest ih =>
      rw [lines]
      split_ifs with hreturn hbreak
      · exact ih
      · exact List.forall_mem_cons.mpr ⟨isSingleLine_nil, ih⟩
      · have hc : isLineBreak c = false := by simpa using hbreak
        split
        · simpa using hc
        · rename_i first others hlines
          rw [hlines, List.forall_mem_cons] at ih
          exact List.forall_mem_cons.mpr ⟨isSingleLine_cons.mpr ⟨hc, ih.1⟩, ih.2⟩

theorem infix_intercalate {gap line : List Char} {text : List (List Char)} (h : line ∈ text) :
    line <:+: gap.intercalate text := by
  induction text with
  | nil => simp at h
  | cons first rest ih =>
      cases rest with
      | nil => simp_all
      | cons second others =>
          rw [List.intercalate_cons_cons, List.append_assoc]
          obtain rfl | hrest := List.mem_cons.mp h
          · exact (List.prefix_append _ _).isInfix
          · refine (ih hrest).trans (List.IsSuffix.isInfix ?_)
            exact (List.suffix_append _ _).trans (List.suffix_append _ _)

theorem not_mem_of_mem_splitOn {gap : Char} {line text : List Char}
    (h : line ∈ text.splitOn gap) : gap ∉ line := by
  induction text generalizing line with
  | nil => simp_all
  | cons c rest ih =>
      rw [List.splitOn_cons_eq_if_modifyHead] at h
      obtain ⟨first, others, hsplit⟩ := List.exists_cons_of_ne_nil (List.splitOn_ne_nil gap rest)
      rw [hsplit] at h ih
      split_ifs at h with hc
      · obtain rfl | hmem := List.mem_cons.mp h
        · simp
        · exact ih hmem
      · rw [List.modifyHead_cons] at h
        obtain rfl | hmem := List.mem_cons.mp h
        · have hne : c ≠ gap := by simpa using hc
          simp [hne.symm, ih List.mem_cons_self]
        · exact ih (List.mem_cons_of_mem _ hmem)

-- A piece of a text between two feeds.
theorem infix_of_mem_splitOn {line text : List Char} (h : line ∈ text.splitOn '\n') :
    line <:+: text := by
  have hinfix : line <:+: ['\n'].intercalate (text.splitOn '\n') := infix_intercalate h
  rwa [List.intercalate_splitOn] at hinfix

theorem isSingleLine_of_mem_splitOn {line text : List Char}
    (htext : ∀ c ∈ text, isLineBreak c → c = '\n') (h : line ∈ text.splitOn '\n') :
    IsSingleLine line := by
  intro c hc
  cases hbreak : isLineBreak c with
  | false => rfl
  | true =>
      have hfeed := htext c ((infix_of_mem_splitOn h).mem hc) hbreak
      exact absurd (hfeed ▸ hc) (not_mem_of_mem_splitOn h)

end Rehearsal.Text
