import Mathlib.Data.List.TakeWhile
import Rehearsal.Proofs.Text.Ascii
import Rehearsal.Proofs.Text.Case
import Rehearsal.Retry.Directive

namespace Rehearsal

namespace Text

variable {cased : Bool}

theorem lowerFrom_cons {c : Char} (h : c ≠ 'Σ') (cased : Bool) :
    ∃ flag, ∀ rest, lowerFrom cased (c :: rest) = lowerChar c ++ lowerFrom flag rest := by
  refine ⟨if caseIgnorableRanges.has c then cased else casedRanges.has c, fun rest => ?_⟩
  rw [lowerFrom, if_neg (by simpa using h)]

-- Neither form of a small sigma is an ASCII character.
theorem ne_sigma_of_head {c : Char} {rest : List Char}
    (h : ∀ d ∈ (lowerFrom cased (c :: rest)).head?, d.toNat < 128) : c ≠ 'Σ' := by
  rintro rfl
  have hlarge : ∀ b : Bool, 128 ≤ (if b then 'ς' else 'σ').toNat := by decide
  exact absurd (h _ rfl) (Nat.not_lt.mpr (hlarge _))

-- Without a sigma no character depends on those around it.
theorem lowerFrom_append {front : List Char} (h : 'Σ' ∉ front) (cased : Bool) :
    ∃ flag, ∀ back, lowerFrom cased (front ++ back) =
      lowerFrom cased front ++ lowerFrom flag back := by
  induction front generalizing cased with
  | nil => exact ⟨cased, fun back => rfl⟩
  | cons c rest ih =>
      obtain ⟨hc, hrest⟩ := not_or.mp (mt List.mem_cons.mpr h)
      obtain ⟨next, hnext⟩ := lowerFrom_cons (Ne.symm hc) cased
      obtain ⟨flag, hflag⟩ := ih hrest next
      exact ⟨flag, fun back => by rw [List.cons_append, hnext, hnext, hflag, List.append_assoc]⟩

theorem lowerFrom_ascii {text : List Char} (h : IsAscii text) (cased : Bool) :
    lowerFrom cased text = text.map Char.toLower := by
  induction text generalizing cased with
  | nil => rfl
  | cons c rest ih =>
      obtain ⟨hc, hrest⟩ := List.forall_mem_cons.mp h
      have hsigma : c ≠ 'Σ' := by
        rintro rfl
        exact absurd hc (by decide)
      obtain ⟨flag, hflag⟩ := lowerFrom_cons hsigma cased
      rw [hflag, lowerChar_ascii hc, ih hrest, List.singleton_append, List.map_cons]

theorem not_mem_of_isAscii_lowerFrom {text : List Char} (h : IsAscii (lowerFrom cased text)) :
    'Σ' ∉ text := by
  induction text generalizing cased with
  | nil => exact List.not_mem_nil
  | cons c rest ih =>
      have hsigma := ne_sigma_of_head fun d hd => h d (List.mem_of_mem_head? hd)
      obtain ⟨flag, hflag⟩ := lowerFrom_cons hsigma cased
      rw [hflag] at h
      rw [List.mem_cons, not_or]
      exact ⟨hsigma.symm, ih fun d hd => h d (List.mem_append_right _ hd)⟩

theorem isAscii_lower {text : List Char} (h : IsAscii text) : IsAscii (lower text) := by
  rw [lower, lowerFrom_ascii h]
  intro c hc
  obtain ⟨d, hd, rfl⟩ := List.mem_map.mp hc
  exact (toLower_ascii (h d hd)).1

theorem length_lower {text : List Char} (h : IsAscii text) : (lower text).length = text.length := by
  rw [lower, lowerFrom_ascii h, List.length_map]

theorem lowerChar_cases (c : Char) : c = 'İ' ∨ ∃ d, lowerChar c = [d] := by
  unfold lowerChar
  split_ifs with hascii hdotted
  · exact .inr ⟨_, rfl⟩
  · exact .inl (eq_of_beq hdotted)
  · exact .inr ⟨_, rfl⟩

-- An ASCII character at the start of a lowered text is the one form of the first character. Only
-- a dotted capital has two, and the second of them is the dot.
theorem lowerFrom_eq_cons {c d : Char} {rest tail : List Char} (hd : d.toNat < 128)
    (h : lowerFrom cased (c :: rest) = d :: tail) :
    c ≠ 'Σ' ∧ (d = 'i' ∧ tail.head? = some '\u0307' ∨
      lowerChar c = [d] ∧ ∃ flag, tail = lowerFrom flag rest) := by
  have hsigma : c ≠ 'Σ' := by
    apply ne_sigma_of_head
    rw [h]
    simpa using hd
  refine ⟨hsigma, ?_⟩
  obtain ⟨flag, hflag⟩ := lowerFrom_cons hsigma cased
  rw [hflag] at h
  obtain rfl | ⟨form, hform⟩ := lowerChar_cases c
  · have hforms : lowerChar 'İ' = ['i', '\u0307'] := by decide +kernel
    rw [hforms] at h
    cases h
    exact .inl ⟨rfl, rfl⟩
  · rw [hform] at h
    cases h
    exact .inr ⟨hform, flag, rfl⟩

-- Where a lowered text starts with an ASCII word and a colon, the text has the colon at the same
-- place. The induction is on the word, one character of the text for each of its own.
theorem exists_cut {word name : List Char} (hword : IsAscii word)
    (h : word ++ [':'] <+: lowerFrom cased name) :
    ∃ front back, name = front ++ ':' :: back ∧ front.length = word.length ∧
      ∀ flag, lowerFrom flag front = word := by
  induction word generalizing name cased with
  | nil =>
      obtain ⟨tail, htail⟩ := h
      cases name with
      | nil => cases htail
      | cons c rest =>
          obtain ⟨-, ⟨hdot, -⟩ | ⟨hform, -⟩⟩ := lowerFrom_eq_cons (by decide) htail.symm
          · exact absurd hdot (by decide)
          · have hcolon : ':' ∈ lowerChar c := by rw [hform]; exact List.mem_singleton_self _
            rw [← eq_of_mem_lowerChar (by decide) (by decide) hcolon]
            exact ⟨[], rest, rfl, rfl, fun flag => rfl⟩
  | cons d more ih =>
      obtain ⟨hd, hmore⟩ := List.forall_mem_cons.mp hword
      obtain ⟨tail, htail⟩ := h
      cases name with
      | nil => cases htail
      | cons c rest =>
          obtain ⟨hsigma, ⟨-, hdot⟩ | ⟨hform, flag, hflag⟩⟩ := lowerFrom_eq_cons hd htail.symm
          · have hascii : ∀ e ∈ (more ++ [':'] ++ tail).head?, e.toNat < 128 := by
              cases more with
              | nil => simp
              | cons e others => simpa using hmore e List.mem_cons_self
            exact absurd (hascii _ hdot) (by decide)
          · obtain ⟨front, back, rfl, hlength, hfront⟩ := ih hmore ⟨tail, hflag⟩
            refine ⟨c :: front, back, rfl, by simp [hlength], fun start => ?_⟩
            obtain ⟨next, hnext⟩ := lowerFrom_cons hsigma start
            rw [hnext, hform, hfront, List.singleton_append]

end Text

namespace TagName

open Text

-- An expected name without its marks.
def unmarked (expected : String) : List Char := expected.toList.dropWhile (· == '@')

-- The value of a tag stands after a word that is as long as the expected name and the same but for
-- the case of its letters, and a colon.
def IsCut (expected name value : String) : Prop :=
  ∃ front, plain name = front ++ ':' :: value.toList ∧
    front.length = (unmarked expected).length ∧ lower front = lower (unmarked expected)

-- The values of some tags, in their order.
inductive Cuts (expected : String) : List String → List String → Prop where
  | nil : Cuts expected [] []
  | take {name value : String} {names values : List String} (cut : IsCut expected name value)
      (more : Cuts expected names values) : Cuts expected (name :: names) (value :: values)
  | skip {name : String} {names values : List String} (none : ∀ value, ¬ IsCut expected name value)
      (more : Cuts expected names values) : Cuts expected (name :: names) values

theorem isAscii_unmarked {expected : String} (h : IsAscii expected.toList) :
    IsAscii (unmarked expected) :=
  fun c hc => h c ((List.dropWhile_suffix _).subset hc)

theorem value?_eq_some {expected name value : String} :
    value? expected name = some value ↔ expectedKey expected ++ [':'] <+: key name ∧
      (plain name).drop ((expectedKey expected).length + 1) = value.toList := by
  rw [← List.isPrefixOf_iff_prefix, value?, List.length_append, List.length_singleton]
  split_ifs with hstarts
  · rw [Option.some.injEq, ← String.toList_inj, String.toList_ofList]
    exact ⟨fun h => ⟨hstarts, h⟩, fun h => h.2⟩
  · exact ⟨fun h => absurd h (by simp), fun h => absurd h.1 hstarts⟩

theorem value?_eq_some_iff_isCut {expected name value : String} (h : IsAscii expected.toList) :
    value? expected name = some value ↔ IsCut expected name value := by
  have hunmarked := isAscii_unmarked h
  have hlength : (expectedKey expected).length = (unmarked expected).length :=
    length_lower hunmarked
  -- What is left of a name without its first word and the colon.
  have hafter : ∀ {front back : List Char}, front.length = (unmarked expected).length →
      (front ++ ':' :: back).drop ((unmarked expected).length + 1) = back := by
    intro front back hfront
    rw [← hfront, ← List.length_singleton, List.append_cons, ← List.length_append, List.drop_left]
  rw [value?_eq_some, hlength]
  constructor
  · rintro ⟨hstarts, hdrop⟩
    obtain ⟨front, back, hname, hfront, hlower⟩ := exists_cut (isAscii_lower hunmarked) hstarts
    rw [length_lower hunmarked] at hfront
    rw [hname, hafter hfront] at hdrop
    exact ⟨front, hdrop ▸ hname, hfront, hlower false⟩
  · rintro ⟨front, hname, hfront, hlower⟩
    have hascii : IsAscii (lower front) := by
      rw [hlower]
      exact isAscii_lower hunmarked
    obtain ⟨flag, hflag⟩ := lowerFrom_append (not_mem_of_isAscii_lowerFrom hascii) false
    have hcolon : ∃ next, ∀ rest, lowerFrom flag (':' :: rest) = ':' :: lowerFrom next rest :=
      lowerFrom_cons (by decide) flag
    obtain ⟨next, hnext⟩ := hcolon
    constructor
    · rw [key, lower, hname, hflag, hnext]
      refine ⟨lowerFrom next value.toList, ?_⟩
      have hkey : expectedKey expected = lowerFrom false front := hlower.symm
      rw [hkey, List.append_assoc, List.singleton_append]
    · rw [hname, hafter hfront]

theorem cuts_values {expected : String} (h : IsAscii expected.toList) (names : List String) :
    Cuts expected names (values expected names) := by
  induction names with
  | nil => exact .nil
  | cons name rest ih =>
      cases hvalue : value? expected name with
      | none =>
          have hskip : values expected (name :: rest) = values expected rest :=
            List.filterMap_cons_none hvalue
          rw [hskip]
          refine .skip (fun value hcut => ?_) ih
          rw [(value?_eq_some_iff_isCut h).mpr hcut] at hvalue
          cases hvalue
      | some value =>
          have htake : values expected (name :: rest) = value :: values expected rest :=
            List.filterMap_cons_some hvalue
          rw [htake]
          exact .take ((value?_eq_some_iff_isCut h).mp hvalue) ih

-- There is one place for the colon, and so one value.
theorem IsCut.unique {expected name value other : String} (h : IsCut expected name value)
    (hother : IsCut expected name other) : value = other := by
  obtain ⟨front, hname, hfront, -⟩ := h
  obtain ⟨front', hname', hfront', -⟩ := hother
  have hsame := List.append_inj (hname.symm.trans hname') (hfront.trans hfront'.symm)
  exact String.toList_inj.mp (List.cons.inj hsame.2).2

theorem Cuts.unique {expected : String} {names found others : List String}
    (h : Cuts expected names found) (hothers : Cuts expected names others) : found = others := by
  induction h generalizing others with
  | nil =>
      cases hothers
      rfl
  | take cut more ih =>
      cases hothers with
      | take cut' more' => rw [cut.unique cut', ih more']
      | skip none more' => exact absurd cut (none _)
  | skip none more ih =>
      cases hothers with
      | take cut' more' => exact absurd cut' (none _)
      | skip none' more' => exact ih more'

theorem anyDirective_singleton (expected name : String) :
    anyDirective expected [name] = isDirective expected name := by
  cases hvalue : value? expected name <;>
    simp [anyDirective, isDirective, anyMatch, values, hvalue]

-- The part in front of the first colon says which directive a tag is.
theorem takeWhile_of_isDirective {expected name : String} (hcolon : ':' ∉ expectedKey expected)
    (h : isDirective expected name) :
    (key name).takeWhile (· != ':') = expectedKey expected := by
  have hword : ∀ c ∈ expectedKey expected, (c != ':') = true := by
    intro c hc
    rw [bne_iff_ne]
    rintro rfl
    exact hcolon hc
  obtain hmatch | hvalue := Bool.or_eq_true_iff.mp h
  · rw [eq_of_beq hmatch, List.takeWhile_eq_self_iff.mpr hword]
  · obtain ⟨value, hvalue⟩ := Option.isSome_iff_exists.mp hvalue
    obtain ⟨tail, htail⟩ := (value?_eq_some.mp hvalue).1
    rw [← htail, List.append_assoc, List.takeWhile_append_of_pos hword]
    simp

theorem not_both_directives {expected other : String} (h : ':' ∉ expectedKey expected)
    (hother : ':' ∉ expectedKey other) (hne : expectedKey expected ≠ expectedKey other)
    (name : String) : ¬ (isDirective expected name ∧ isDirective other name) := by
  rintro ⟨hfirst, hsecond⟩
  apply hne
  rw [← takeWhile_of_isDirective h hfirst, takeWhile_of_isDirective hother hsecond]

-- The values of a directive are what stands after the expected name and a colon, wherever the names
-- of the tags agree with it but for case. No tag is a directive for both the count and the
-- exception.
theorem values_cut {expected : String} (h : IsAscii expected.toList) :
    (∀ names found, values expected names = found ↔ Cuts expected names found) ∧
      (∀ name, anyDirective expected [name] ↔
        lower (plain name) = lower (unmarked expected) ∨ ∃ value, IsCut expected name value) ∧
      ∀ name, ¬ (anyDirective Retry.countTag [name] ∧ anyDirective Retry.sparedTag [name]) := by
  refine ⟨fun names found => ?_, fun name => ?_, fun name => ?_⟩
  · constructor
    · rintro rfl
      exact cuts_values h names
    · exact fun hfound => (cuts_values h names).unique hfound
  · rw [anyDirective_singleton, isDirective, Bool.or_eq_true, isMatch, beq_iff_eq,
      Option.isSome_iff_exists]
    simp only [value?_eq_some_iff_isCut h]
    rfl
  · rw [anyDirective_singleton, anyDirective_singleton]
    exact not_both_directives (by decide +kernel) (by decide +kernel) (by decide +kernel) name

-- The sign for kelvin is lowered to a letter of ASCII.
theorem values_cut_risk :
    Cuts "@Risk" ["@smoke", "RIS\u212A:7", "Risky:8", "risk"] ["7"] ∧
      (lower (plain "risk") = lower (unmarked "@Risk") ∨ ∃ value, IsCut "@Risk" "risk" value) := by
  obtain ⟨hcuts, hdirective, -⟩ := @values_cut "@Risk" (by decide)
  exact ⟨(hcuts _ _).mp (by decide +kernel), (hdirective "risk").mp (by decide +kernel)⟩

end TagName

end Rehearsal
