import Mathlib.Tactic.Common
import Rehearsal.Text.Case
import Rehearsal.Text.Word

namespace Rehearsal.Text

def IsAscii (text : List Char) : Prop := ∀ c ∈ text, c.toNat < 128

instance (text : List Char) : Decidable (IsAscii text) :=
  decidable_of_iff (text.all fun c => decide (c.toNat < 128)) (by simp [IsAscii])

-- There are few enough of these characters to go through them one by one.
@[elab_as_elim]
theorem holds_of_ascii {p : Char → Prop} {c : Char} (hc : c.toNat < 128)
    (h : ∀ n < 128, p (Char.ofNat n)) : p c := by
  have hp := h c.toNat hc
  rwa [Char.ofNat_toNat] at hp

-- The letters, digits and the underscore of ASCII.
def isPlain (c : Char) : Bool := c.isAlphanum || c == '_'

theorem isWordChar_eq_isPlain {c : Char} (h : c.toNat < 128) : isWordChar c = isPlain c := by
  rw [isWordChar, if_pos h, isPlain]

theorem upperChar_ascii {c : Char} (h : c.toNat < 128) : upperChar c = [c.toUpper] := by
  rw [upperChar, if_pos h]

theorem lowerChar_ascii {c : Char} (h : c.toNat < 128) : lowerChar c = [c.toLower] := by
  rw [lowerChar, if_pos h]

theorem toUpper_ascii {c : Char} (h : c.toNat < 128) :
    c.toUpper.toNat < 128 ∧ c.toUpper.toUpper = c.toUpper ∧ isPlain c.toUpper = isPlain c ∧
      c.toUpper.toLower = c.toLower :=
  holds_of_ascii h (by decide)

theorem toLower_ascii {c : Char} (h : c.toNat < 128) :
    c.toLower.toNat < 128 ∧ c.toLower.toUpper = c.toUpper ∧ isPlain c.toLower = isPlain c ∧
      c.toLower.isDigit = c.isDigit :=
  holds_of_ascii h (by decide)

end Rehearsal.Text
