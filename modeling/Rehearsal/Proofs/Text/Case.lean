import Mathlib.Tactic.Common
import Rehearsal.Text.Case

namespace Rehearsal.Text

-- No letter is lowered to a character in front of the capitals.
theorem lowerRuns_above : ∀ run ∈ lowerRuns, 65 ≤ run.first + run.shift := by
  have hall : lowerRuns.all fun run => decide (65 ≤ run.first + run.shift) := by decide +kernel
  intro run hrun
  exact of_decide_eq_true (List.all_eq_true.mp hall run hrun)

theorem toNat_ofNat_of_pos {n : Nat} (h : 0 < (Char.ofNat n).toNat) :
    (Char.ofNat n).toNat = n := by
  unfold Char.ofNat at h ⊢
  by_cases hvalid : n.isValidChar
  · rw [dif_pos hvalid]
    rfl
  · rw [dif_neg hvalid] at h
    exact absurd h (by decide)

theorem shifted_lowerRuns {c : Char} (hpos : 0 < (shifted lowerRuns c).toNat)
    (hlow : (shifted lowerRuns c).toNat < 65) : shifted lowerRuns c = c := by
  unfold shifted at hpos hlow ⊢
  cases hrun : lowerRuns.find? fun run => run.first ≤ c.toNat && c.toNat ≤ run.last &&
      (c.toNat - run.first) % run.step == 0 with
  | none => rfl
  | some run =>
      rw [hrun] at hpos hlow
      dsimp only at hpos hlow
      have hfirst := List.find?_some hrun
      simp only [Bool.and_eq_true, decide_eq_true_eq] at hfirst
      have habove := lowerRuns_above run (List.mem_of_find?_eq_some hrun)
      rw [toNat_ofNat_of_pos hpos] at hlow
      omega

theorem toLower_of_low {c : Char} (h : c.toLower.toNat < 65) : c.toLower = c := by
  unfold Char.toLower at h ⊢
  by_cases hupper : c.val ≥ 'A'.val ∧ c.val ≤ 'Z'.val
  · rw [dif_pos hupper] at h
    obtain ⟨hfrom, hto⟩ := hupper
    rw [ge_iff_le, UInt32.le_iff_toNat_le] at hfrom
    rw [UInt32.le_iff_toNat_le] at hto
    change (c.val + ('a'.val - 'A'.val)).toNat < 65 at h
    rw [UInt32.toNat_add] at h
    have hgap : ('a'.val - 'A'.val).toNat = 32 := by decide
    have hA : 'A'.val.toNat = 65 := by decide
    have hZ : 'Z'.val.toNat = 90 := by decide
    omega
  · rw [dif_neg hupper]

theorem eq_of_mem_lowerChar {c d : Char} (hpos : 0 < d.toNat) (hlow : d.toNat < 65)
    (h : d ∈ lowerChar c) : d = c := by
  unfold lowerChar at h
  by_cases hascii : c.toNat < 128
  · rw [if_pos hascii, List.mem_singleton] at h
    rw [h] at hlow ⊢
    exact toLower_of_low hlow
  · rw [if_neg hascii] at h
    by_cases hdotted : c == 'İ'
    · rw [if_pos hdotted] at h
      simp only [List.mem_cons, List.not_mem_nil, or_false] at h
      rcases h with rfl | rfl
      · exact absurd hlow (by decide)
      · exact absurd hlow (by decide)
    · rw [if_neg hdotted, List.mem_singleton] at h
      rw [h] at hpos hlow ⊢
      exact shifted_lowerRuns hpos hlow

-- Lowering a text brings in no digits, dots or slashes.
theorem mem_of_mem_lowerFrom {cased : Bool} {text : List Char} {d : Char} (hpos : 0 < d.toNat)
    (hlow : d.toNat < 65) (h : d ∈ lowerFrom cased text) : d ∈ text := by
  induction text generalizing cased with
  | nil => exact h
  | cons c rest ih =>
      rw [lowerFrom, List.mem_append] at h
      rcases h with hform | hrest
      · by_cases hsigma : c == 'Σ'
        · rw [if_pos hsigma, List.mem_singleton] at hform
          have hlarge : ∀ b : Bool, 65 ≤ (if b then 'ς' else 'σ').toNat := by decide
          have habove := hlarge (cased && !startsCased rest)
          rw [← hform] at habove
          omega
        · rw [if_neg hsigma] at hform
          rw [eq_of_mem_lowerChar hpos hlow hform]
          exact List.mem_cons_self
      · exact List.mem_cons_of_mem _ (ih hrest)

end Rehearsal.Text
