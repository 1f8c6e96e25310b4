import Rehearsal.Proofs.Numeral
import Rehearsal.Retry.Directive

namespace Rehearsal.Retry

theorem count?_eq_some_iff {value : String} {n : Nat} :
    count? value = some n ↔ Numeral.Spells value.toList n := by
  rw [Numeral.spells_iff, count?]
  split
  · rename_i m hread
    simp [hread]
  · rename_i hread
    exact iff_of_false (by simp) (hread n)

theorem count?_eq_none_iff {value : String} :
    count? value = none ↔ ∀ n : Int, Numeral.Spells value.toList n → n < 0 := by
  constructor
  · intro hnone n hspells
    by_contra hneg
    obtain ⟨count, rfl⟩ := Int.eq_ofNat_of_zero_le (Int.not_lt.mp hneg)
    rw [count?_eq_some_iff.mpr hspells] at hnone
    cases hnone
  · intro h
    cases hcount : count? value with
    | none => rfl
    | some n => exact absurd (h n (count?_eq_some_iff.mp hcount)) (by omega)

-- A count is read from a text exactly if the text spells it. No other text has a count, so one
-- that spells no number or a negative one has none. The plain form of every count is read back,
-- also with a plus, with zeros in front and with underscores between digits.
theorem count?_exact (n : Nat) :
    (∀ value : String, count? value = some n ↔ Numeral.Spells value.toList n) ∧
      (∀ value : String, count? value = none ↔
        ∀ m : Int, Numeral.Spells value.toList m → m < 0) ∧
      ∀ (sign : Numeral.Sign) (zeros : Nat) (groups : List (List Char)), sign ≠ .minus →
        [] ∉ groups → groups.flatten = List.replicate zeros '0' ++ (toString n).toList →
        zeros + (toString n).length ≤ 4300 →
        count? (String.ofList (sign.text ++ ['_'].intercalate groups)) = some n := by
  refine ⟨fun value => count?_eq_some_iff, fun value => count?_eq_none_iff, ?_⟩
  intro sign zeros groups hsign hfilled hdigits hlimit
  obtain ⟨digits, htext, hlength, hnumber⟩ := Numeral.exists_padded hfilled hdigits
  have hvalue : sign.apply digits.number = n := by
    cases sign with
    | minus => exact absurd rfl hsign
    | bare => exact congrArg _ hnumber
    | plus => exact congrArg _ hnumber
  rw [count?_eq_some_iff, String.toList_ofList, ← htext, ← hvalue]
  exact .plain sign digits (hlength ▸ hlimit)

-- Digits of two scripts stand in one group.
theorem count?_exact_dozen :
    Numeral.Spells "\t+0_\u06612 ".toList 12 ∧
      (∀ m : Int, Numeral.Spells "-1_2".toList m → m < 0) ∧
      ([['0'], ['0', '1'], ['2']].flatten = List.replicate 2 '0' ++ (toString 12).toList ∧
        2 + (toString 12).length ≤ 4300) ∧
      count? "+0_01_2" = some 12 := by
  obtain ⟨hspells, hnone, hplain⟩ := count?_exact 12
  have hdigits : [['0'], ['0', '1'], ['2']].flatten =
      List.replicate 2 '0' ++ (toString 12).toList := by decide +kernel
  have hlimit : 2 + (toString 12).length ≤ 4300 := by decide
  have hcount := hplain .plus 2 _ (by decide) (by decide) hdigits hlimit
  exact ⟨(hspells _).mp (by decide +kernel), (hnone _).mp (by decide +kernel),
    ⟨hdigits, hlimit⟩, hcount⟩

end Rehearsal.Retry
