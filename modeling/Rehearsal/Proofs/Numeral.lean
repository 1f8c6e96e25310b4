import Mathlib.Data.List.Forall2
import Mathlib.Data.Nat.Digits.Defs
import Rehearsal.Numeral
import Rehearsal.Proofs.Text.Blank
import Rehearsal.Proofs.Text.Lines

namespace Rehearsal

namespace Text

-- The place of a character after the zero of its script.
def IsDecimal (c : Char) (d : Nat) : Prop := ∃ z ∈ decimalZeros, d < 10 ∧ c.toNat = z + d

-- No two scripts share a digit, so the first one that has a character is the only one.
theorem decimalZeros_apart : ∀ z ∈ decimalZeros, ∀ other ∈ decimalZeros,
    z = other ∨ z + 9 < other ∨ other + 9 < z := by
  decide +kernel

theorem decimalZeros_not_blank : ∀ z ∈ decimalZeros, ∀ range ∈ blankRanges,
    z + 9 < range.1 ∨ range.2 < z := by
  decide +kernel

theorem decimalValue?_eq_some_iff {c : Char} {d : Nat} :
    decimalValue? c = some d ↔ IsDecimal c d := by
  have hfound : ∀ start, (decimalZeros.find? fun z => z ≤ c.toNat && c.toNat ≤ z + 9) = some start →
      start ∈ decimalZeros ∧ start ≤ c.toNat ∧ c.toNat ≤ start + 9 := fun start hfind =>
    ⟨List.mem_of_find?_eq_some hfind, by simpa using List.find?_some hfind⟩
  constructor
  · intro h
    obtain ⟨z, hfind, rfl⟩ := Option.map_eq_some_iff.mp h
    obtain ⟨hz, hrange⟩ := hfound z hfind
    exact ⟨z, hz, by omega, by omega⟩
  · rintro ⟨z, hz, hd, hc⟩
    have hrange : z ≤ c.toNat ∧ c.toNat ≤ z + 9 := by omega
    have hsome : (decimalZeros.find? fun z => z ≤ c.toNat && c.toNat ≤ z + 9).isSome :=
      List.find?_isSome.mpr ⟨z, hz, by simpa using hrange⟩
    obtain ⟨other, hfind⟩ := Option.isSome_iff_exists.mp hsome
    obtain ⟨hother, hrange'⟩ := hfound other hfind
    have hsame : other = z := by
      have hapart := decimalZeros_apart other hother z hz
      omega
    rw [decimalValue?, hfind, hsame, Option.map_some, hc, Nat.add_sub_cancel_left]

theorem IsDecimal.not_blank {c : Char} {d : Nat} (h : IsDecimal c d) : isBlank c = false := by
  obtain ⟨z, hz, hd, hc⟩ := h
  rw [isBlank, Ranges.has, List.any_eq_false]
  intro range hrange
  have hapart := decimalZeros_not_blank z hz range hrange
  have hnone : ¬ (range.1 ≤ c.toNat ∧ c.toNat ≤ range.2) := by omega
  simpa using hnone

theorem IsDecimal.ne {c other : Char} {d : Nat} (h : IsDecimal c d)
    (hother : decimalValue? other = none) : c ≠ other := by
  rintro rfl
  rw [decimalValue?_eq_some_iff.mpr h] at hother
  cases hother

theorem isDecimal_of_isDigit {c : Char} (h : c.isDigit) : IsDecimal c (c.toNat - '0'.toNat) := by
  have hrange : 48 ≤ c.toNat ∧ c.toNat ≤ 57 := by
    simpa [Char.isDigit, UInt32.le_iff_toNat_le] using h
  have hzero : '0'.toNat = 48 := rfl
  exact ⟨48, by decide, by omega, by omega⟩

end Text

namespace Numeral

inductive Sign where
  | bare
  | plus
  | minus
  deriving DecidableEq, Repr

namespace Sign

def text : Sign → List Char
  | bare => []
  | plus => ['+']
  | minus => ['-']

def apply : Sign → Nat → Int
  | bare, n => n
  | plus, n => n
  | minus, n => -n

end Sign

-- Groups of digits that are written with an underscore between two of them. The digits may be of
-- several scripts.
structure Digits where
  groups : List (List Char)
  values : List Nat
  ne_nil : groups ≠ []
  filled : [] ∉ groups
  decimal : List.Forall₂ Text.IsDecimal groups.flatten values

namespace Digits

def text (digits : Digits) : List Char := ['_'].intercalate digits.groups

-- The first digit counts most.
def number (digits : Digits) : Nat := Nat.ofDigits 10 digits.values.reverse

end Digits

-- A text that stands for a number: a sign and digits within the limit, with blanks around them.
inductive Spells : List Char → Int → Prop
  | mk {before after : List Char} (sign : Sign) (digits : Digits)
      (blankBefore : ∀ c ∈ before, Text.isBlank c) (blankAfter : ∀ c ∈ after, Text.isBlank c)
      (within : digits.values.length ≤ 4300) :
      Spells (before ++ (sign.text ++ digits.text) ++ after) (sign.apply digits.number)

theorem Spells.plain (sign : Sign) (digits : Digits) (h : digits.values.length ≤ 4300) :
    Spells (sign.text ++ digits.text) (sign.apply digits.number) := by
  have hspells := @Spells.mk [] [] sign digits (by simp) (by simp) h
  rwa [List.nil_append, List.append_nil] at hspells

theorem ofDigits_eq (values : List Nat) : ofDigits values = Nat.ofDigits 10 values.reverse := by
  rw [Nat.ofDigits_eq_foldr, List.foldr_reverse, ofDigits]
  simp only [Nat.cast_id, Nat.add_comm]

section Reading

variable {c : Char} {d : Nat} (h : Text.IsDecimal c d)
include h

theorem digits?_singleton : digits? [c] = some [d] := by
  rw [digits?, Text.decimalValue?_eq_some_iff.mpr h, Option.map_some]

theorem digits?_cons_gap (rest : List Char) :
    digits? (c :: '_' :: rest) = (digits? rest).map (d :: ·) := by
  rw [digits?, Text.decimalValue?_eq_some_iff.mpr h, Option.bind_some, if_pos (by decide)]

theorem digits?_cons_cons {next : Char} (hnext : next ≠ '_') (rest : List Char) :
    digits? (c :: next :: rest) = (digits? (next :: rest)).map (d :: ·) := by
  rw [digits?, Text.decimalValue?_eq_some_iff.mpr h, Option.bind_some,
    if_neg (by simpa using hnext)]

end Reading

-- By induction on the digits. The next one stands in the same group, or first in the group after
-- the underscore.
theorem digits?_intercalate {groups : List (List Char)} {values : List Nat} (hne : groups ≠ [])
    (hfilled : [] ∉ groups) (h : List.Forall₂ Text.IsDecimal groups.flatten values) :
    digits? (['_'].intercalate groups) = some values := by
  induction values generalizing groups with
  | nil =>
      obtain ⟨group, rest, rfl⟩ := List.exists_cons_of_ne_nil hne
      rw [List.forall₂_nil_right_iff, List.flatten_cons, List.append_eq_nil_iff] at h
      exact absurd (by simp [h.1]) hfilled
  | cons d values ih =>
      obtain ⟨group, rest, rfl⟩ := List.exists_cons_of_ne_nil hne
      obtain ⟨hgroup, hrest⟩ := not_or.mp (mt List.mem_cons.mpr hfilled)
      obtain ⟨c, more, rfl⟩ := List.exists_cons_of_ne_nil (Ne.symm hgroup)
      rw [List.flatten_cons, List.cons_append, List.forall₂_cons] at h
      obtain ⟨hc, hmore⟩ := h
      cases more with
      | cons next others =>
          have hnext : next ≠ '_' := by
            cases hmore with
            | cons hnext _ => exact hnext.ne rfl
          have htext := @ih ((next :: others) :: rest) (by simp) (by simpa using hrest) hmore
          rw [List.intercalate_cons_cons_left] at htext
          rw [List.intercalate_cons_cons_left, List.intercalate_cons_cons_left,
            digits?_cons_cons hc hnext, htext, Option.map_some]
      | nil =>
          cases rest with
          | nil =>
              obtain rfl := List.forall₂_nil_left_iff.mp hmore
              exact digits?_singleton hc
          | cons group others =>
              have htext := ih (by simp) hrest hmore
              rw [List.intercalate_cons_cons, List.append_assoc, List.singleton_append,
                List.singleton_append, digits?_cons_gap hc, htext, Option.map_some]

theorem exists_digits {text : List Char} {values : List Nat} (h : digits? text = some values) :
    ∃ digits : Digits, digits.text = text ∧ digits.values = values := by
  fun_induction digits? text generalizing values with
  | case1 => cases h
  | case2 c =>
      obtain ⟨d, hc, rfl⟩ := Option.map_eq_some_iff.mp h
      have hdecimal := Text.decimalValue?_eq_some_iff.mp hc
      exact ⟨⟨[[c]], [d], by simp, by simp, .cons hdecimal .nil⟩, rfl, rfl⟩
  | case3 c next rest ihGap ihNext =>
      obtain ⟨d, hc, hmore⟩ := Option.bind_eq_some_iff.mp h
      have hdecimal := Text.decimalValue?_eq_some_iff.mp hc
      obtain ⟨more, hread, rfl⟩ := Option.map_eq_some_iff.mp hmore
      split_ifs at hread with hnext
      · -- The digit is a group of its own.
        obtain ⟨digits, htext, rfl⟩ := ihGap hread
        refine ⟨⟨[c] :: digits.groups, d :: digits.values, by simp, by simp [digits.filled],
          .cons hdecimal digits.decimal⟩, ?_, rfl⟩
        rw [Digits.text, List.intercalate_cons_of_ne_nil digits.ne_nil, ← Digits.text, htext,
          eq_of_beq hnext]
        rfl
      · -- The digit comes in front of the first group.
        obtain ⟨digits, htext, rfl⟩ := ihNext hread
        obtain ⟨group, others, hgroups⟩ := List.exists_cons_of_ne_nil digits.ne_nil
        have hfilled := digits.filled
        have hdigits := digits.decimal
        rw [Digits.text] at htext
        rw [hgroups] at hfilled hdigits htext
        refine ⟨⟨(c :: group) :: others, d :: digits.values, by simp, ?_,
          .cons hdecimal hdigits⟩, ?_, rfl⟩
        · simpa using fun h => hfilled (List.mem_cons_of_mem group h)
        · rw [Digits.text, List.intercalate_cons_cons_left, htext]

theorem digits?_eq_some_iff {text : List Char} {values : List Nat} :
    digits? text = some values ↔
      ∃ digits : Digits, digits.text = text ∧ digits.values = values := by
  refine ⟨exists_digits, ?_⟩
  rintro ⟨digits, rfl, rfl⟩
  exact digits?_intercalate digits.ne_nil digits.filled digits.decimal

theorem magnitude?_eq_some_iff {text : List Char} {n : Nat} :
    magnitude? text = some n ↔
      ∃ digits : Digits, digits.text = text ∧ digits.values.length ≤ 4300 ∧ digits.number = n := by
  rw [magnitude?, Option.bind_eq_some_iff]
  constructor
  · rintro ⟨values, hread, hvalue⟩
    obtain ⟨digits, htext, rfl⟩ := digits?_eq_some_iff.mp hread
    split_ifs at hvalue with hlimit
    exact ⟨digits, htext, hlimit, by rw [Digits.number, ← ofDigits_eq, Option.some.inj hvalue]⟩
  · rintro ⟨digits, htext, hlimit, rfl⟩
    refine ⟨digits.values, digits?_eq_some_iff.mpr ⟨digits, htext, rfl⟩, ?_⟩
    rw [maxDigits, if_pos hlimit, ofDigits_eq, Digits.number]

-- The plain form of a number, cut into groups. Zeros in front are digits that count for nothing.
theorem exists_padded {n zeros : Nat} {groups : List (List Char)} (hfilled : [] ∉ groups)
    (hdigits : groups.flatten = List.replicate zeros '0' ++ (Nat.repr n).toList) :
    ∃ digits : Digits, digits.text = ['_'].intercalate groups ∧
      digits.values.length = zeros + (Nat.repr n).length ∧ digits.number = n := by
  have hplain : (Nat.repr n).toList = Nat.toDigits 10 n := Nat.toList_repr
  have hne : groups ≠ [] := by
    rintro rfl
    have hnil := (List.append_eq_nil_iff.mp hdigits.symm).2
    exact Nat.toDigits_ne_nil (hplain ▸ hnil)
  have hascii : ∀ c ∈ groups.flatten, c.isDigit := by
    rw [hdigits, hplain, List.forall_mem_append]
    refine ⟨fun c hc => ?_, fun c => Nat.isDigit_of_mem_toDigits (by decide) (by decide)⟩
    rw [List.eq_of_mem_replicate hc]
    rfl
  have hdecimal : List.Forall₂ Text.IsDecimal groups.flatten
      (groups.flatten.map fun c => c.toNat - '0'.toNat) := by
    rw [List.forall₂_map_right_iff, List.forall₂_same]
    exact fun c hc => Text.isDecimal_of_isDigit (hascii c hc)
  refine ⟨⟨groups, _, hne, hfilled, hdecimal⟩, rfl, ?_, ?_⟩
  · rw [List.length_map, hdigits, List.length_append, List.length_replicate, String.length_toList]
  · rw [Digits.number, ← ofDigits_eq, ofDigits, List.foldl_map, ← Nat.ofDigitChars_eq_foldl,
      hdigits, Nat.ofDigitChars_append, Nat.ofDigitChars_replicate_zero, Nat.mul_zero, hplain,
      Nat.ofDigitChars_ten_toDigits]

theorem Digits.exists_text_eq_cons (digits : Digits) :
    ∃ c d rest, digits.text = c :: rest ∧ Text.IsDecimal c d := by
  obtain ⟨group, others, hgroups⟩ := List.exists_cons_of_ne_nil digits.ne_nil
  have hfilled := digits.filled
  have hdigits := digits.decimal
  rw [hgroups] at hfilled hdigits
  obtain ⟨c, more, rfl⟩ := List.exists_cons_of_ne_nil fun h : group = [] => hfilled (by simp [h])
  obtain ⟨d, -, hc, -, -⟩ := List.forall₂_cons_left_iff.mp hdigits
  exact ⟨c, d, _, by rw [Digits.text, hgroups, List.intercalate_cons_cons_left], hc⟩

theorem read?_of_no_sign {c : Char} (hplus : c ≠ '+') (hminus : c ≠ '-') (rest : List Char) :
    read? (c :: rest) = (magnitude? (c :: rest)).map Int.ofNat := by
  unfold read?
  split <;> simp_all

theorem read?_minus (rest : List Char) :
    read? ('-' :: rest) = (magnitude? rest).map Sign.minus.apply := by
  rw [read?]
  cases magnitude? rest <;> rfl

theorem read?_sign (sign : Sign) (digits : Digits) :
    read? (sign.text ++ digits.text) = (magnitude? digits.text).map sign.apply := by
  cases sign with
  | plus => rfl
  | minus => exact read?_minus digits.text
  | bare =>
      obtain ⟨c, d, rest, htext, hc⟩ := digits.exists_text_eq_cons
      rw [htext]
      exact read?_of_no_sign (hc.ne rfl) (hc.ne rfl) rest

-- The sign is taken off first.
theorem exists_sign (text : List Char) : ∃ (sign : Sign) (rest : List Char),
    text = sign.text ++ rest ∧ read? text = (magnitude? rest).map sign.apply := by
  cases text with
  | nil => exact ⟨.bare, [], rfl, rfl⟩
  | cons c rest =>
      by_cases hplus : c = '+'
      · exact ⟨.plus, rest, by simp [hplus, Sign.text], by rw [hplus]; rfl⟩
      by_cases hminus : c = '-'
      · exact ⟨.minus, rest, by simp [hminus, Sign.text], by rw [hminus, read?_minus]⟩
      · exact ⟨.bare, c :: rest, rfl, read?_of_no_sign hplus hminus rest⟩

theorem read?_eq_some_iff {text : List Char} {n : Int} :
    read? text = some n ↔ ∃ (sign : Sign) (digits : Digits), text = sign.text ++ digits.text ∧
      digits.values.length ≤ 4300 ∧ sign.apply digits.number = n := by
  constructor
  · intro h
    obtain ⟨sign, rest, rfl, hread⟩ := exists_sign text
    rw [hread] at h
    obtain ⟨m, hm, rfl⟩ := Option.map_eq_some_iff.mp h
    obtain ⟨digits, rfl, hlimit, rfl⟩ := magnitude?_eq_some_iff.mp hm
    exact ⟨sign, digits, rfl, hlimit, rfl⟩
  · rintro ⟨sign, digits, rfl, hlimit, rfl⟩
    rw [read?_sign, magnitude?_eq_some_iff.mpr ⟨digits, rfl, hlimit, rfl⟩, Option.map_some]

-- What is written is read back.
theorem read?_of_write? {n : Int} {text : String} (h : write? n = some text) :
    read? text.toList = some n := by
  obtain ⟨digits, hdigits, hlength, hnumber⟩ :=
    @exists_padded n.natAbs 0 [(Nat.repr n.natAbs).toList] (by simp) (by simp)
  rw [List.intercalate_singleton] at hdigits
  rw [Nat.zero_add] at hlength
  unfold write? at h
  dsimp only at h
  split_ifs at h with hlimit hneg
  · obtain rfl := Option.some.inj h
    refine read?_eq_some_iff.mpr ⟨.minus, digits, ?_, hlength ▸ hlimit, ?_⟩
    · rw [hdigits, String.toList_append]
      rfl
    · rw [hnumber, Sign.apply]
      omega
  · obtain rfl := Option.some.inj h
    refine read?_eq_some_iff.mpr ⟨.bare, digits, hdigits.symm, hlength ▸ hlimit, ?_⟩
    rw [hnumber, Sign.apply]
    omega

theorem isToken_sign_append (sign : Sign) (digits : Digits) :
    Text.IsToken (sign.text ++ digits.text) := by
  have hsign : ∀ c ∈ sign.text, Text.isBlank c = false := by
    cases sign <;> simp [Sign.text] <;> rfl
  have hdigits : ∀ c ∈ digits.groups.flatten, Text.isBlank c = false :=
    ((List.forall₂_and_left _ _).mp (digits.decimal.imp fun _ _ h => ⟨h.not_blank, h⟩)).1
  obtain ⟨c, d, rest, htext, -⟩ := digits.exists_text_eq_cons
  refine ⟨by simp [htext], List.forall_mem_append.mpr ⟨hsign, ?_⟩⟩
  refine Text.forall_mem_intercalate (List.forall_mem_singleton.mpr (by decide)) ?_
  exact fun group hgroup c hc => hdigits c (List.mem_flatten_of_mem hgroup hc)

-- The blanks around a numeral are all that trimming takes off.
theorem spells_iff {text : List Char} {n : Int} :
    Spells text n ↔ read? (Text.trim text) = some n := by
  constructor
  · rintro ⟨sign, digits, hbefore, hafter, hlimit⟩
    rw [Text.trim_append_blank hafter, Text.trim_blank_append hbefore,
      (isToken_sign_append sign digits).trim_eq]
    exact read?_eq_some_iff.mpr ⟨sign, digits, rfl, hlimit, rfl⟩
  · intro h
    obtain ⟨sign, digits, htext, hlimit, rfl⟩ := read?_eq_some_iff.mp h
    obtain ⟨before, after, hbefore, hafter, hwhole⟩ := Text.exists_blanks text
    rw [← hwhole, htext]
    exact .mk sign digits hbefore hafter hlimit

end Numeral

end Rehearsal
