import Mathlib.Data.List.DropRight
import Rehearsal.Text.Blank

namespace Rehearsal.Text

theorem trimStart_eq_self_iff {text : List Char} :
    trimStart text = text ↔ ∀ c ∈ text.head?, isBlank c = false := by
  cases text with
  | nil => simp [trimStart]
  | cons c rest =>
      cases hc : isBlank c with
      | false => simp [trimStart, hc]
      | true =>
          have hlt : (rest.dropWhile isBlank).length < (c :: rest).length :=
            Nat.lt_succ_of_le (List.dropWhile_suffix isBlank).length_le
          refine ⟨fun h => ?_, fun h => ?_⟩
          · rw [trimStart, List.dropWhile_cons_of_pos hc] at h
            rw [h] at hlt
            omega
          · simp [hc] at h

theorem trimEnd_eq_self_iff {text : List Char} :
    trimEnd text = text ↔ ∀ c ∈ text.getLast?, isBlank c = false := by
  have h := @trimStart_eq_self_iff text.reverse
  rw [List.head?_reverse] at h
  rw [← h, trimEnd, trimStart, List.reverse_eq_iff]

-- A trimmed text has no blank at either end.
theorem trim_eq_self_iff {text : List Char} :
    trim text = text ↔
      (∀ c ∈ text.head?, isBlank c = false) ∧ ∀ c ∈ text.getLast?, isBlank c = false := by
  rw [← trimStart_eq_self_iff, ← trimEnd_eq_self_iff]
  refine ⟨fun h => ?_, fun ⟨hstart, hend⟩ => by rw [trim, hstart, hend]⟩
  have hend : (trim text).length ≤ (trimStart text).length :=
    (List.rdropWhile_prefix isBlank _).length_le
  have hstart : trimStart text <:+ text := List.dropWhile_suffix isBlank
  rw [h] at hend
  have heq := hstart.eq_of_length_le hend
  exact ⟨heq, by rwa [trim, heq] at h⟩

theorem trimEnd_of_trim {text : List Char} (h : trim text = text) : trimEnd text = text :=
  trimEnd_eq_self_iff.mpr (trim_eq_self_iff.mp h).2

theorem trim_infix (text : List Char) : trim text <:+: text :=
  (List.rdropWhile_prefix isBlank _).isInfix.trans (List.dropWhile_suffix isBlank).isInfix

theorem head?_trimStart (text : List Char) : ∀ c ∈ (trimStart text).head?, isBlank c = false := by
  intro c hc
  have hnot := List.head?_dropWhile_not isBlank text
  rw [← trimStart, Option.mem_def.mp hc] at hnot
  simpa using hnot

theorem trim_trim (text : List Char) : trim (trim text) = trim text := by
  rw [trim_eq_self_iff]
  constructor
  · intro c hc
    have hprefix : trim text <+: trimStart text := List.rdropWhile_prefix isBlank _
    obtain ⟨rest, hrest⟩ := hprefix
    apply head?_trimStart text
    rw [← hrest, List.head?_append, Option.mem_def.mp hc]
    rfl
  · intro c hc
    have hlast := head?_trimStart (trimStart text).reverse
    rw [← List.getLast?_reverse] at hlast
    exact hlast c hc

theorem mem_trimStart {c : Char} (hc : isBlank c = false) {text : List Char} (h : c ∈ text) :
    c ∈ trimStart text := by
  rw [← @List.takeWhile_append_dropWhile _ isBlank text, List.mem_append] at h
  obtain hfront | hrest := h
  · exact absurd (List.mem_takeWhile_imp hfront) (by simp [hc])
  · exact hrest

theorem mem_trim {c : Char} (hc : isBlank c = false) {text : List Char} (h : c ∈ text) :
    c ∈ trim text := by
  rw [trim, trimEnd, List.mem_reverse]
  exact mem_trimStart hc (List.mem_reverse.mpr (mem_trimStart hc h))

theorem isBlank_of_mem_replicate {n : Nat} : ∀ c ∈ List.replicate n ' ', isBlank c := by
  intro c hc
  rw [List.eq_of_mem_replicate hc]
  decide

theorem trim_blank_append {before : List Char} (h : ∀ c ∈ before, isBlank c) (text : List Char) :
    trim (before ++ text) = trim text := by
  rw [trim, trimStart, List.dropWhile_append_of_pos h, ← trimStart, ← trim]

theorem trim_append_blank {after : List Char} (h : ∀ c ∈ after, isBlank c) (text : List Char) :
    trim (text ++ after) = trim text := by
  have hend : ∀ front, trimEnd (front ++ after) = trimEnd front := by
    intro front
    have hafter : ∀ c ∈ after.reverse, isBlank c := by simpa using h
    rw [trimEnd, List.reverse_append, List.dropWhile_append_of_pos hafter, ← trimEnd]
  by_cases hblank : trimStart text = []
  · have hstart : trimStart (text ++ after) = trimStart after := by
      rw [trimStart, List.dropWhile_append, if_pos (by simpa [trimStart] using hblank), ← trimStart]
    have hnil : trimStart after = [] := by simpa [trimStart] using h
    rw [trim, hstart, hnil, trim, hblank]
  · have hstart : trimStart (text ++ after) = trimStart text ++ after := by
      rw [trimStart, List.dropWhile_append, if_neg (by simpa [trimStart] using hblank), ← trimStart]
    rw [trim, hstart, hend, ← trim]

-- What trimming takes off is blank.
theorem exists_blanks (text : List Char) : ∃ before after : List Char,
    (∀ c ∈ before, isBlank c) ∧ (∀ c ∈ after, isBlank c) ∧ before ++ trim text ++ after = text := by
  refine ⟨text.takeWhile isBlank, (trimStart text).rtakeWhile isBlank,
    fun c => List.mem_takeWhile_imp, fun c => List.mem_rtakeWhile_imp, ?_⟩
  have hend : trim text ++ (trimStart text).rtakeWhile isBlank = trimStart text :=
    List.rdropWhile_append_rtakeWhile
  rw [List.append_assoc, hend, trimStart, List.takeWhile_append_dropWhile]

theorem trim_replicate_append (n : Nat) (text : List Char) :
    trim (List.replicate n ' ' ++ text) = trim text :=
  trim_blank_append isBlank_of_mem_replicate text

theorem trim_cons_space (text : List Char) : trim (' ' :: text) = trim text :=
  trim_replicate_append 1 text

theorem trim_append {front back : List Char} (hfront : front ≠ [])
    (hstart : trimStart front = front) (hback : back ≠ []) (hend : trimEnd back = back) :
    trim (front ++ back) = front ++ back := by
  rw [trim_eq_self_iff, List.head?_append_of_ne_nil _ hfront,
    List.getLast?_append_of_ne_nil _ hback]
  exact ⟨trimStart_eq_self_iff.mp hstart, trimEnd_eq_self_iff.mp hend⟩

theorem trimStart_of_no_blank {text : List Char} (h : ∀ c ∈ text, isBlank c = false) :
    trimStart text = text :=
  trimStart_eq_self_iff.mpr fun c hc => h c (List.mem_of_mem_head? hc)

theorem trimEnd_of_no_blank {text : List Char} (h : ∀ c ∈ text, isBlank c = false) :
    trimEnd text = text :=
  trimEnd_eq_self_iff.mpr fun c hc => h c (List.mem_of_mem_getLast? hc)

-- A run ends where the property does.
theorem runs_append {p : Char → Bool} {word rest : List Char} (hne : word ≠ [])
    (hword : ∀ c ∈ word, p c) (hrest : rest.head?.any p = false) :
    runs p (word ++ rest) = word :: runs p rest := by
  induction word with
  | nil => exact absurd rfl hne
  | cons c more ih =>
      have hc : p c := hword c (by simp)
      cases more with
      | nil => simp [runs, hc, hrest]
      | cons d others =>
          have hd : p d := hword d (by simp)
          have hmore := ih (by simp) fun e he => hword e (List.mem_cons_of_mem c he)
          rw [List.cons_append, runs, if_pos hc, hmore]
          simp [hd]

def IsToken (word : List Char) : Prop := word ≠ [] ∧ ∀ c ∈ word, isBlank c = false

instance (word : List Char) : Decidable (IsToken word) :=
  decidable_of_iff (word ≠ [] ∧ word.all fun c => !isBlank c) (by simp [IsToken])

theorem IsToken.trim_eq {word : List Char} (h : IsToken word) : trim word = word := by
  rw [trim, trimStart_of_no_blank h.2, trimEnd_of_no_blank h.2]

theorem tokens_cons_space (text : List Char) : tokens (' ' :: text) = tokens text := by
  have hspace : isBlank ' ' := by decide
  simp [tokens, runs, hspace]

theorem tokens_append {word rest : List Char} (h : IsToken word)
    (hrest : rest.head?.all isBlank) : tokens (word ++ rest) = word :: tokens rest := by
  apply runs_append h.1 fun c hc => by simp [h.2 c hc]
  cases rest with
  | nil => rfl
  | cons c more => simpa using hrest

theorem tokens_eq_singleton {word : List Char} (h : IsToken word) : tokens word = [word] := by
  have happend : tokens (word ++ []) = word :: tokens [] := tokens_append h rfl
  rwa [List.append_nil] at happend

-- Words with a blank between them are read back one by one.
theorem tokens_intercalate {words : List (List Char)} (h : ∀ word ∈ words, IsToken word) :
    tokens ([' '].intercalate words) = words := by
  induction words with
  | nil => rfl
  | cons word rest ih =>
      have hword := h word (by simp)
      cases rest with
      | nil => simpa using tokens_eq_singleton hword
      | cons next others =>
          have hrest := ih fun w hw => h w (List.mem_cons_of_mem word hw)
          rw [List.intercalate_cons_cons, List.append_assoc, List.singleton_append,
            tokens_append hword rfl, tokens_cons_space, hrest]

theorem trim_intercalate {words : List (List Char)} (h : ∀ word ∈ words, IsToken word) :
    trim ([' '].intercalate words) = [' '].intercalate words := by
  induction words with
  | nil => rfl
  | cons word rest ih =>
      have hword := h word (by simp)
      cases rest with
      | nil => simpa using hword.trim_eq
      | cons next others =>
          have hrest := ih fun w hw => h w (List.mem_cons_of_mem word hw)
          have hnext := (h next (by simp)).1
          rw [List.intercalate_cons_cons]
          apply trim_append
          · simp
          · rw [trimStart_eq_self_iff, List.head?_append_of_ne_nil _ hword.1]
            exact trimStart_eq_self_iff.mp (trimStart_of_no_blank hword.2)
          · cases others <;> simp [hnext]
          · exact trimEnd_of_trim hrest

end Rehearsal.Text
