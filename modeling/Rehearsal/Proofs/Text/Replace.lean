import Mathlib.Data.List.Infix
import Rehearsal.Text.Replace

namespace Rehearsal.Text

variable {old new : List Char}

theorem replaceFrom_eq_drop (skip : Nat) (text : List Char) :
    replaceFrom old new skip text = replace old new (text.drop skip) := by
  induction text generalizing skip with
  | nil => cases skip <;> rfl
  | cons c rest ih =>
      cases skip with
      | zero => rfl
      | succ k => simpa [replaceFrom] using ih k

theorem replace_append (hne : old ≠ []) (rest : List Char) :
    replace old new (old ++ rest) = new ++ replace old new rest := by
  cases old with
  | nil => exact absurd rfl hne
  | cons c more =>
      have hmatch : (c :: more).isPrefixOf (c :: (more ++ rest)) := by simp
      rw [List.cons_append, replace, replaceFrom, if_pos hmatch, replaceFrom_eq_drop]
      simp

theorem replace_cons {c : Char} {rest : List Char} (h : ¬old <+: c :: rest) :
    replace old new (c :: rest) = c :: replace old new rest := by
  rw [replace, replaceFrom, if_neg (by rwa [List.isPrefixOf_iff_prefix])]
  rfl

theorem mem_replaceFrom {c : Char} {skip : Nat} {text : List Char}
    (h : c ∈ replaceFrom old new skip text) : c ∈ new ∨ c ∈ text := by
  induction text generalizing skip with
  | nil => cases skip <;> simp [replaceFrom] at h
  | cons d rest ih =>
      cases skip with
      | succ k => exact (ih h).imp_right (List.mem_cons_of_mem d)
      | zero =>
          rw [replaceFrom] at h
          split_ifs at h
          · obtain hnew | hrest := List.mem_append.mp h
            · exact .inl hnew
            · exact (ih hrest).imp_right (List.mem_cons_of_mem d)
          · obtain rfl | hrest := List.mem_cons.mp h
            · exact .inr List.mem_cons_self
            · exact (ih hrest).imp_right (List.mem_cons_of_mem d)

-- Either there is nothing to replace, or the new text shows.
theorem replace_cases (hne : old ≠ []) (text : List Char) :
    (¬old <:+: text ∧ replace old new text = text) ∨ new <:+: replace old new text := by
  induction text with
  | nil => exact .inl ⟨by simpa using hne, rfl⟩
  | cons c rest ih =>
      by_cases hmatch : old <+: c :: rest
      · obtain ⟨tail, htail⟩ := hmatch
        rw [← htail, replace_append hne]
        exact .inr (List.prefix_append _ _).isInfix
      · rw [replace_cons hmatch]
        obtain ⟨hnone, hsame⟩ | hshown := ih
        · refine .inl ⟨?_, by rw [hsame]⟩
          rw [List.infix_cons_iff]
          exact not_or.mpr ⟨hmatch, hnone⟩
        · exact .inr (hshown.trans (List.suffix_cons _ _).isInfix)

end Rehearsal.Text
