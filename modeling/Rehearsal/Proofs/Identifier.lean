import Rehearsal.Identifier
import Rehearsal.Proofs.Text.Ascii
import Rehearsal.Proofs.Text.Blank

namespace Rehearsal

namespace Text

-- Words with something else around and between them. No word goes on after its end.
inductive Spaced (p : Char → Bool) : List (List Char) → List Char → Prop where
  | gap {gap : List Char} (other : ∀ c ∈ gap, p c = false) : Spaced p [] gap
  | word {gap word rest : List Char} {words : List (List Char)}
      (other : ∀ c ∈ gap, p c = false) (nonempty : word ≠ []) (chars : ∀ c ∈ word, p c)
      (ends : rest.head?.any p = false) (more : Spaced p words rest) :
      Spaced p (word :: words) (gap ++ (word ++ rest))

variable {p : Char → Bool} {words : List (List Char)} {text : List Char}

theorem runs_gap_append {gap : List Char} (h : ∀ c ∈ gap, p c = false) (rest : List Char) :
    runs p (gap ++ rest) = runs p rest := by
  induction gap with
  | nil => rfl
  | cons c more ih =>
      obtain ⟨hc, hmore⟩ := List.forall_mem_cons.mp h
      rw [List.cons_append, runs, if_neg (by simp [hc]), ih hmore]

theorem Spaced.runs_eq (h : Spaced p words text) : runs p text = words := by
  induction h with
  | @gap gap other =>
      have hgap := runs_gap_append other []
      rwa [List.append_nil] at hgap
  | word other nonempty chars ends more ih =>
      rw [runs_gap_append other, runs_append nonempty chars ends, ih]

theorem Spaced.cons_gap (h : Spaced p words text) {c : Char} (hc : p c = false) :
    Spaced p words (c :: text) := by
  cases h with
  | gap other => exact .gap (List.forall_mem_cons.mpr ⟨hc, other⟩)
  | word other nonempty chars ends more =>
      exact .word (List.forall_mem_cons.mpr ⟨hc, other⟩) nonempty chars ends more

-- A character in front of a word makes it longer.
theorem Spaced.cons_word (h : Spaced p words text) {c : Char} (hc : p c)
    (hhead : text.head?.any p) : ∃ longer, Spaced p longer (c :: text) := by
  cases h with
  | gap other =>
      obtain ⟨d, hd, hp⟩ := (Option.any_eq_true _ _).mp hhead
      rw [other d (List.mem_of_mem_head? hd)] at hp
      cases hp
  | @word gap word rest words other nonempty chars ends more =>
      cases gap with
      | nil =>
          have hword : ∀ d ∈ c :: word, p d := List.forall_mem_cons.mpr ⟨hc, chars⟩
          exact ⟨(c :: word) :: words,
            .word (List.forall_mem_nil _) (List.cons_ne_nil c word) hword ends more⟩
      | cons d gap =>
          rw [List.cons_append, List.head?_cons, Option.any_some,
            other d List.mem_cons_self] at hhead
          cases hhead

theorem exists_spaced (p : Char → Bool) (text : List Char) : ∃ words, Spaced p words text := by
  induction text with
  | nil => exact ⟨[], .gap (List.forall_mem_nil _)⟩
  | cons c rest ih =>
      obtain ⟨words, hrest⟩ := ih
      cases hc : p c with
      | false => exact ⟨words, hrest.cons_gap hc⟩
      | true =>
          cases hhead : rest.head?.any p with
          | true => exact hrest.cons_word hc hhead
          | false =>
              exact ⟨[c] :: words, .word (List.forall_mem_nil _) (List.cons_ne_nil c [])
                (List.forall_mem_singleton.mpr hc) hhead hrest⟩

theorem Spaced.each (h : Spaced p words text) :
    ∀ word ∈ words, word ≠ [] ∧ ∀ c ∈ word, p c ∧ c ∈ text := by
  induction h with
  | gap other => exact List.forall_mem_nil _
  | word other nonempty chars ends more ih =>
      refine List.forall_mem_cons.mpr ⟨⟨nonempty, fun c hc => ⟨chars c hc, by simp [hc]⟩⟩, ?_⟩
      intro word hword
      obtain ⟨hne, hmem⟩ := ih word hword
      exact ⟨hne, fun c hc => ⟨(hmem c hc).1, by simp [(hmem c hc).2]⟩⟩

end Text

namespace Identifier

open Text

-- Letters, digits and underscores, the first of them no digit.
structure IsName (name : List Char) : Prop where
  nonempty : name ≠ []
  chars : ∀ c ∈ name, isPlain c
  start : ∀ c ∈ name.head?, c.isDigit = false

-- A name that does not start with a small letter.
structure IsPascal (name : List Char) : Prop extends IsName name where
  ascii : IsAscii name
  upper : ∀ c ∈ name.head?, c.toUpper = c

theorem isPascal_cons {c : Char} {rest : List Char} (hplain : ∀ d ∈ c :: rest, isPlain d)
    (hascii : IsAscii (c :: rest)) (hdigit : c.isDigit = false) (hupper : c.toUpper = c) :
    IsPascal (c :: rest) where
  nonempty := List.cons_ne_nil c rest
  chars := hplain
  start := by simpa using hdigit
  ascii := hascii
  upper := by simpa using hupper

theorem capitalized_ascii {word : List Char} (hne : word ≠ [])
    (h : ∀ c ∈ word, isWordChar c ∧ c.toNat < 128) :
    (∀ c ∈ capitalized word, isPlain c ∧ c.toNat < 128) ∧
      ∃ c rest, capitalized word = c :: rest ∧ c.toUpper = c := by
  cases word with
  | nil => exact absurd rfl hne
  | cons c rest =>
      obtain ⟨⟨hword, hascii⟩, hrest⟩ := List.forall_mem_cons.mp h
      obtain ⟨hbound, hupper, hplain, -⟩ := toUpper_ascii hascii
      rw [capitalized, upperChar_ascii hascii, List.singleton_append]
      refine ⟨List.forall_mem_cons.mpr ⟨⟨?_, hbound⟩, ?_⟩, _, _, rfl, hupper⟩
      · rw [hplain, ← isWordChar_eq_isPlain hascii]
        exact hword
      · intro d hd
        obtain ⟨hd, hlow⟩ := hrest d hd
        exact ⟨isWordChar_eq_isPlain hlow ▸ hd, hlow⟩

theorem map_toLower_capitalized {word : List Char} (h : IsAscii word) :
    (capitalized word).map Char.toLower = word.map Char.toLower := by
  cases word with
  | nil => rfl
  | cons c rest =>
      have hc := h c List.mem_cons_self
      rw [capitalized, upperChar_ascii hc, List.singleton_append, List.map_cons, List.map_cons,
        (toUpper_ascii hc).2.2.2]

theorem ascii_of_spaced {text : List Char} {words : List (List Char)} (h : IsAscii text)
    (hspaced : Spaced isWordChar words text) :
    ∀ word ∈ words, word ≠ [] ∧ ∀ c ∈ word, isWordChar c ∧ c.toNat < 128 := by
  intro word hword
  obtain ⟨hne, hchars⟩ := hspaced.each word hword
  exact ⟨hne, fun c hc => ⟨(hchars c hc).1, h c (hchars c hc).2⟩⟩

-- The words are all there, whatever the case of their first letters.
theorem map_toLower_pascalChars {text : List Char} {words : List (List Char)} (h : IsAscii text)
    (hspaced : Spaced isWordChar words text) : ∃ mark, (mark = [] ∨ mark = ['_']) ∧
      (pascalChars text).map Char.toLower = mark ++ words.flatten.map Char.toLower := by
  have hbody : (words.flatMap capitalized).map Char.toLower = words.flatten.map Char.toLower := by
    rw [List.map_flatMap, List.map_flatten, ← List.flatMap_def]
    apply List.flatMap_congr
    intro word hword
    apply map_toLower_capitalized
    exact fun c hc => ((ascii_of_spaced h hspaced word hword).2 c hc).2
  rw [← hbody, pascalChars, hspaced.runs_eq]
  cases words.flatMap capitalized with
  | nil => exact ⟨['_'], .inr rfl, rfl⟩
  | cons c rest =>
      dsimp only
      split_ifs
      · exact ⟨['_'], .inr rfl, rfl⟩
      · exact ⟨[], .inl rfl, rfl⟩

theorem isPascal_pascalChars {text : List Char} (h : IsAscii text) :
    IsPascal (pascalChars text) := by
  obtain ⟨words, hspaced⟩ := exists_spaced isWordChar text
  have heach := ascii_of_spaced h hspaced
  rw [pascalChars, hspaced.runs_eq]
  cases words with
  | nil =>
      exact isPascal_cons (List.forall_mem_singleton.mpr rfl)
        (List.forall_mem_singleton.mpr (by decide)) rfl rfl
  | cons word more =>
      have hbody : ∀ d ∈ (word :: more).flatMap capitalized, isPlain d ∧ d.toNat < 128 := by
        intro d hd
        obtain ⟨part, hpart, hd⟩ := List.mem_flatMap.mp hd
        obtain ⟨hne, hchars⟩ := heach part hpart
        exact (capitalized_ascii hne hchars).1 d hd
      obtain ⟨hne, hchars⟩ := heach word List.mem_cons_self
      obtain ⟨-, c, rest, hword, hupper⟩ := capitalized_ascii hne hchars
      rw [List.flatMap_cons, hword, List.cons_append] at hbody ⊢
      have hplain := fun d hd => (hbody d hd).1
      have hascii : IsAscii _ := fun d hd => (hbody d hd).2
      have hdigit : isDigit c = c.isDigit := by rw [isDigit, if_pos (hascii c List.mem_cons_self)]
      dsimp only
      cases hc : c.isDigit with
      | false =>
          rw [hdigit, hc, if_neg Bool.false_ne_true]
          exact isPascal_cons hplain hascii hc hupper
      | true =>
          rw [hdigit, hc, if_pos rfl]
          exact isPascal_cons (List.forall_mem_cons.mpr ⟨rfl, hplain⟩)
            (List.forall_mem_cons.mpr ⟨by decide, hascii⟩) rfl rfl

-- A name is one word, of which only the first letter changes.
theorem pascalChars_of_isPlain {c : Char} {rest : List Char} (hplain : ∀ d ∈ c :: rest, isPlain d)
    (hascii : IsAscii (c :: rest)) (hdigit : c.toUpper.isDigit = false) :
    pascalChars (c :: rest) = c.toUpper :: rest := by
  have hword : ∀ d ∈ c :: rest, isWordChar d := by
    intro d hd
    rw [isWordChar_eq_isPlain (hascii d hd)]
    exact hplain d hd
  have hruns : runs isWordChar (c :: rest) = [c :: rest] := by
    have happend := @runs_append isWordChar _ [] (List.cons_ne_nil c rest) hword rfl
    rwa [List.append_nil] at happend
  have hlow := hascii c List.mem_cons_self
  have hother : isDigit c.toUpper = false := by
    rw [isDigit, if_pos (toUpper_ascii hlow).1, hdigit]
  rw [pascalChars, hruns, List.flatMap_singleton, capitalized, upperChar_ascii hlow,
    List.singleton_append]
  dsimp only
  rw [hother, if_neg Bool.false_ne_true]

theorem IsPascal.pascalChars_eq {name : List Char} (h : IsPascal name) :
    pascalChars name = name := by
  cases name with
  | nil => exact absurd rfl h.nonempty
  | cons c rest =>
      have hupper : c.toUpper = c := h.upper c rfl
      have hdigit : c.toUpper.isDigit = false := by
        rw [hupper]
        exact h.start c rfl
      rw [pascalChars_of_isPlain h.chars h.ascii hdigit, hupper]

theorem camelChars_of_isPascal {text : List Char} (h : IsPascal (pascalChars text)) :
    IsName (camelChars text) ∧ pascalChars (camelChars text) = pascalChars text := by
  unfold camelChars
  cases hname : pascalChars text with
  | nil => exact absurd hname h.nonempty
  | cons c rest =>
      rw [hname] at h
      dsimp only
      by_cases hmark : c == '_'
      · rw [if_pos hmark]
        exact ⟨h.toIsName, h.pascalChars_eq⟩
      · obtain ⟨hlow, hrest⟩ := List.forall_mem_cons.mp h.ascii
        obtain ⟨hplain, hothers⟩ := List.forall_mem_cons.mp h.chars
        obtain ⟨hbound, hback, hsame, hdigits⟩ := toLower_ascii hlow
        have hupper : c.toUpper = c := h.upper c rfl
        have hdigit : c.isDigit = false := h.start c rfl
        have hchars : ∀ d ∈ c.toLower :: rest, isPlain d :=
          List.forall_mem_cons.mpr ⟨hsame.trans hplain, hothers⟩
        rw [if_neg hmark, lowerChar_ascii hlow, List.singleton_append]
        refine ⟨⟨List.cons_ne_nil _ _, hchars, by simpa using hdigits.trans hdigit⟩, ?_⟩
        rw [pascalChars_of_isPlain hchars (List.forall_mem_cons.mpr ⟨hbound, hrest⟩)
          (by rw [hback, hupper, hdigit]), hback, hupper]

-- What an identifier is made of, that it holds the words of the text and depends on nothing else,
-- and that making an identifier of one, also of one in camel case, changes nothing.
theorem pascal_laws {text : String} (h : IsAscii text.toList) :
    IsName (pascal text).toList ∧ IsName (camel text).toList ∧
      (∃ words, Spaced isWordChar words text.toList ∧
        (∃ mark, (mark = [] ∨ mark = ['_']) ∧
          (pascal text).toList.map Char.toLower = mark ++ words.flatten.map Char.toLower) ∧
        ∀ other : String, Spaced isWordChar words other.toList → pascal other = pascal text) ∧
      pascal (pascal text) = pascal text ∧ pascal (camel text) = pascal text := by
  have hpascal := isPascal_pascalChars h
  obtain ⟨hcamel, hback⟩ := camelChars_of_isPascal hpascal
  obtain ⟨words, hwords⟩ := exists_spaced isWordChar text.toList
  simp only [pascal, camel, String.toList_ofList]
  refine ⟨hpascal.toIsName, hcamel, ⟨words, hwords, ?_, fun other hother => ?_⟩, ?_, ?_⟩
  · exact map_toLower_pascalChars h hwords
  · rw [pascalChars, pascalChars, hother.runs_eq, hwords.runs_eq]
  · rw [hpascal.pascalChars_eq]
  · rw [hback]

theorem pascal_laws_inventory :
    pascal (camel "user's e-mail") = pascal "user's e-mail" ∧
      pascal (pascal "3 apples") = pascal "3 apples" ∧ IsName (camel "3 apples").toList ∧
      IsName (pascal "!!!").toList :=
  ⟨(@pascal_laws "user's e-mail" (by decide)).2.2.2.2,
    (@pascal_laws "3 apples" (by decide)).2.2.2.1,
    (@pascal_laws "3 apples" (by decide)).2.1, (@pascal_laws "!!!" (by decide)).1⟩

example : [pascal "user's e-mail", camel "user's e-mail", pascal "3 apples", pascal "!!!"] =
    ["UserSEMail", "userSEMail", "_3Apples", "_"] := by decide +kernel

end Identifier

end Rehearsal
