import Mathlib.Data.List.Basic
import Mathlib.Data.List.TakeWhile
import Rehearsal.Outline.Placeholder
import Rehearsal.Proofs.Code.Execution

namespace Rehearsal.Outline

open Code

-- The name of the placeholder that a text starts with: at least one character in angle brackets,
-- up to the first bracket that closes.
def placeholder? : List Char → Option (List Char)
  | '<' :: rest =>
      let name := rest.takeWhile (· != '>')
      if name ≠ [] ∧ name ≠ rest then some name else none
  | _ => none

-- Puts a value in the place of each placeholder that has one. Characters that belong to a
-- placeholder before them are skipped.
def replacedFrom (value? : List Char → Option (List Char)) : Nat → List Char → List Char
  | _, [] => []
  | skip + 1, _ :: rest => replacedFrom value? skip rest
  | 0, c :: rest =>
      match placeholder? (c :: rest) with
      | some name =>
          (value? name).getD ('<' :: name ++ ['>']) ++ replacedFrom value? (name.length + 1) rest
      | none => c :: replacedFrom value? 0 rest

def replaced (value? : List Char → Option (List Char)) (text : List Char) : List Char :=
  replacedFrom value? 0 text

-- A placeholder that is found is all that stands before the rest.
theorem placeholder?_eq_some {c : Char} {rest name : List Char}
    (h : placeholder? (c :: rest) = some name) :
    c = '<' ∧ name ≠ [] ∧ '>' ∉ name ∧ rest = name ++ '>' :: rest.drop (name.length + 1) := by
  by_cases hc : c = '<'
  · subst hc
    rw [placeholder?] at h
    split at h
    · rename_i hname
      obtain ⟨hne, hmore⟩ := hname
      rw [Option.some.injEq] at h
      have hsplit := List.takeWhile_append_dropWhile (p := (· != '>')) (l := rest)
      cases hdrop : rest.dropWhile (· != '>') with
      | nil =>
          rw [hdrop, List.append_nil] at hsplit
          exact absurd hsplit hmore
      | cons d after =>
          have hd : d = '>' := by
            have := List.head?_dropWhile_not (· != '>') rest
            simpa [hdrop] using this
          rw [hdrop, hd, h] at hsplit
          have hnot : '>' ∉ name := by
            intro hmem
            rw [← h] at hmem
            simpa using List.mem_takeWhile_imp hmem
          refine ⟨rfl, h ▸ hne, hnot, ?_⟩
          have hafter : rest.drop (name.length + 1) = after := by
            rw [← hsplit]
            simp
          rw [hafter, hsplit]
    · cases h
  · simp [placeholder?, hc] at h

-- Without a placeholder at its start, a text has another character there, an empty pair of
-- brackets, or a bracket that nothing closes.
theorem placeholder?_eq_none {c : Char} {rest : List Char} (h : placeholder? (c :: rest) = none) :
    c ≠ '<' ∨ rest.head? = some '>' ∨ '>' ∉ rest := by
  by_cases hc : c = '<'
  · subst hc
    rw [placeholder?] at h
    split at h
    · cases h
    · rename_i hname
      rw [not_and_or, not_not, not_not] at hname
      right
      rcases hname with hempty | hall
      · cases rest with
        | nil => exact .inr List.not_mem_nil
        | cons d more =>
            left
            have hd : d = '>' := by simpa [List.takeWhile_cons] using hempty
            rw [hd]
            rfl
      · right
        intro hmem
        rw [← hall] at hmem
        simpa using List.mem_takeWhile_imp hmem
  · exact .inl hc

-- How the characters of a bracket that was opened go on.
theorem piecesFrom_closed {first : Char} {name more : List Char} (hmore : '>' ∉ more)
    (rest : List Char) :
    piecesFrom (some (first :: name)) (more ++ '>' :: rest) =
      .slot (first :: name ++ more) :: piecesFrom none rest := by
  induction more generalizing name with
  | nil => simp [piecesFrom]
  | cons c others ih =>
      rw [List.mem_cons, not_or] at hmore
      have hc : (c == '>') = false := by simpa using Ne.symm hmore.1
      have hstep : piecesFrom (some (first :: name)) (c :: (others ++ '>' :: rest)) =
          piecesFrom (some (first :: (name ++ [c]))) (others ++ '>' :: rest) := by
        rw [piecesFrom, hc, if_neg Bool.false_ne_true]
        rfl
      rw [List.cons_append, hstep, ih hmore.2]
      simp

theorem piecesFrom_unclosed {name rest : List Char} (hrest : '>' ∉ rest) :
    piecesFrom (some name) rest = .char '<' :: (name ++ rest).map .char := by
  induction rest generalizing name with
  | nil => simp [piecesFrom]
  | cons c others ih =>
      rw [List.mem_cons, not_or] at hrest
      have hc : (c == '>') = false := by simpa using Ne.symm hrest.1
      cases name with
      | nil => simp [piecesFrom, hc, ih hrest.2]
      | cons first more => simp [piecesFrom, hc, ih hrest.2]

theorem pieces_of_not_mem {text : List Char} (h : '>' ∉ text) : pieces text = text.map .char := by
  induction text with
  | nil => rfl
  | cons c rest ih =>
      rw [List.mem_cons, not_or] at h
      by_cases hc : c = '<'
      · rw [pieces, piecesFrom, if_pos (by simpa using hc), piecesFrom_unclosed h.2, hc]
        rfl
      · rw [pieces, piecesFrom, if_neg (by simpa using hc), ← pieces, ih h.2]
        rfl

theorem pieces_placeholder {c : Char} {rest name : List Char}
    (h : placeholder? (c :: rest) = some name) :
    pieces (c :: rest) = .slot name :: pieces (rest.drop (name.length + 1)) := by
  obtain ⟨rfl, hne, hnot, hrest⟩ := placeholder?_eq_some h
  generalize rest.drop (name.length + 1) = after at hrest ⊢
  obtain ⟨first, more, rfl⟩ := List.exists_cons_of_ne_nil hne
  rw [List.mem_cons, not_or] at hnot
  have hfirst : (first == '>') = false := by simpa using Ne.symm hnot.1
  have hopen : pieces ('<' :: rest) = piecesFrom (some []) rest := rfl
  rw [hopen, hrest, List.cons_append, piecesFrom, hfirst, if_neg Bool.false_ne_true,
    piecesFrom_closed hnot.2]
  rfl

theorem pieces_char {c : Char} {rest : List Char} (h : placeholder? (c :: rest) = none) :
    pieces (c :: rest) = .char c :: pieces rest := by
  by_cases hc : c = '<'
  · subst hc
    have hopen : pieces ('<' :: rest) = piecesFrom (some []) rest := rfl
    rcases placeholder?_eq_none h with hne | hempty | hunclosed
    · exact absurd rfl hne
    · obtain ⟨more, rfl⟩ : ∃ more, rest = '>' :: more := by
        cases rest with
        | nil => cases hempty
        | cons d more => exact ⟨more, by rw [Option.some.inj hempty]⟩
      rfl
    · rw [hopen, piecesFrom_unclosed hunclosed, pieces_of_not_mem hunclosed, List.nil_append]
  · rw [pieces, piecesFrom, if_neg (by simpa using hc)]
    rfl

-- What a piece of a text becomes.
def Piece.replaced (value? : List Char → Option (List Char)) : Piece → List Char
  | .char c => [c]
  | .slot name => (value? name).getD ('<' :: name ++ ['>'])

theorem replacedFrom_eq_pieces (value? : List Char → Option (List Char)) (skip : Nat)
    (text : List Char) :
    replacedFrom value? skip text = (pieces (text.drop skip)).flatMap (·.replaced value?) := by
  induction text generalizing skip with
  | nil => cases skip <;> rfl
  | cons c rest ih =>
      cases skip with
      | succ skip => exact ih skip
      | zero =>
          rw [replacedFrom, List.drop_zero]
          cases h : placeholder? (c :: rest) with
          | some name =>
              rw [pieces_placeholder h, List.flatMap_cons, ← ih (name.length + 1)]
              rfl
          | none =>
              rw [pieces_char h, List.flatMap_cons]
              dsimp only
              rw [ih, List.drop_zero]
              rfl

theorem replaced_eq_pieces (value? : List Char → Option (List Char)) (text : List Char) :
    replaced value? text = (pieces text).flatMap (·.replaced value?) :=
  replacedFrom_eq_pieces value? 0 text

-- Only the values of the names that a text uses matter to it.
theorem replaced_congr {value? other? : List Char → Option (List Char)} {text : List Char}
    (h : ∀ name, .slot name ∈ pieces text → value? name = other? name) :
    replaced value? text = replaced other? text := by
  rw [replaced_eq_pieces, replaced_eq_pieces]
  apply List.flatMap_congr
  intro piece hpiece
  cases piece with
  | char c => rfl
  | slot name => rw [Piece.replaced, Piece.replaced, h name hpiece]

-- Where nothing has a value, nothing changes.
theorem replacedFrom_none (skip : Nat) (text : List Char) :
    replacedFrom (fun _ => none) skip text = text.drop skip := by
  induction text generalizing skip with
  | nil => cases skip <;> rfl
  | cons c rest ih =>
      cases skip with
      | succ skip => exact ih skip
      | zero =>
          rw [replacedFrom]
          cases h : placeholder? (c :: rest) with
          | none =>
              dsimp only
              rw [ih]
              rfl
          | some name =>
              obtain ⟨rfl, -, -, hrest⟩ := placeholder?_eq_some h
              dsimp only
              rw [ih, List.drop_zero, Option.getD_none, List.cons_append, List.cons_append,
                List.append_assoc, List.singleton_append, ← hrest]

-- A part of a format text.
inductive Segment where
  | char (c : Char)
  | slot (number : Nat)
  deriving DecidableEq, Repr

namespace Segment

def number? : Segment → Option Nat
  | .char _ => none
  | .slot number => some number

def filled? (arguments : List String) : Segment → Option (List Char)
  | .char c => some [c]
  | .slot number => arguments[number]?.map String.toList

end Segment

-- The parts of a format text: doubled braces stand for one, and digits in braces for a slot. Inside
-- a slot the digits read so far give its number.
def segmentsFrom : Option Nat → List Char → Option (List Segment)
  | none, [] => some []
  | some _, [] => none
  | some number, c :: rest =>
      if c == '\x7d' then (segmentsFrom none rest).map (.slot number :: ·)
      else if c.isDigit then segmentsFrom (some (10 * number + (c.toNat - '0'.toNat))) rest
      else none
  | none, c :: next :: rest =>
      if c == '\x7b' then
        if next == '\x7b' then (segmentsFrom none rest).map (.char c :: ·)
        else if next.isDigit then segmentsFrom (some (next.toNat - '0'.toNat)) rest
        else none
      else if c == '\x7d' then
        if next == '\x7d' then (segmentsFrom none rest).map (.char c :: ·) else none
      else (segmentsFrom none (next :: rest)).map (.char c :: ·)
  | none, [c] => if c == '\x7b' || c == '\x7d' then none else some [.char c]

def segments? (template : String) : Option (List Segment) := segmentsFrom none template.toList

section Filling

variable {arguments : List String}

def fillAll (arguments : List String) (segments : List Segment) : Option (List Char) :=
  (segments.mapM (Segment.filled? arguments)).map List.flatten

theorem fillAll_cons (segment : Segment) (rest : List Segment) :
    fillAll arguments (segment :: rest) =
      (segment.filled? arguments).bind fun first => (fillAll arguments rest).map (first ++ ·) := by
  rw [fillAll, fillAll, List.mapM_cons]
  cases segment.filled? arguments <;> cases rest.mapM (Segment.filled? arguments) <;> rfl

theorem fillAll_append (front back : List Segment) :
    fillAll arguments (front ++ back) =
      (fillAll arguments front).bind fun first => (fillAll arguments back).map (first ++ ·) := by
  rw [fillAll, fillAll, fillAll, List.mapM_append]
  cases front.mapM (Segment.filled? arguments) <;>
    cases back.mapM (Segment.filled? arguments) <;> simp

theorem bind_fillAll_cons (segment : Segment) (rest : Option (List Segment)) :
    (rest.map (segment :: ·)).bind (fillAll arguments) =
      (segment.filled? arguments).bind fun first =>
        (rest.bind (fillAll arguments)).map (first ++ ·) := by
  cases rest with
  | none => cases segment.filled? arguments <;> rfl
  | some rest => exact fillAll_cons segment rest

-- Filling a format text is filling its parts.
theorem fillFrom_eq_fillAll (number : Option Nat) (template : List Char) :
    fillFrom arguments number template = (segmentsFrom number template).bind (fillAll arguments) := by
  fun_induction fillFrom arguments number template with
  | case3 number c rest hclose ih =>
      rw [segmentsFrom, if_pos hclose, bind_fillAll_cons, ih, Segment.filled?]
      cases arguments[number]? <;> rfl
  | case6 c next rest hopen hnext ih =>
      rw [segmentsFrom, if_pos hopen, if_pos hnext, bind_fillAll_cons, ih]
      rfl
  | case9 c next rest hopen hclose hnext ih =>
      rw [segmentsFrom, if_neg hopen, if_pos hclose, if_pos hnext, bind_fillAll_cons, ih]
      rfl
  | case11 c next rest hopen hclose ih =>
      rw [segmentsFrom, if_neg hopen, if_neg hclose, bind_fillAll_cons, ih]
      rfl
  | _ => simp_all [segmentsFrom, fillAll, Segment.filled?]

theorem segmentsFrom_doubled_char (c : Char) (rest : List Char) :
    segmentsFrom none (doubled [c] ++ rest) = (segmentsFrom none rest).map (.char c :: ·) := by
  by_cases hopen : c = '\x7b'
  · subst hopen
    rfl
  · by_cases hclose : c = '\x7d'
    · subst hclose
      rfl
    · have hsingle : doubled [c] = [c] := by simp [doubled, hopen, hclose]
      rw [hsingle]
      cases rest with
      | nil => simp [segmentsFrom, hopen, hclose]
      | cons next more => simp [segmentsFrom, hopen, hclose]

theorem segmentsFrom_doubled (text rest : List Char) :
    segmentsFrom none (doubled text ++ rest) =
      (segmentsFrom none rest).map (text.map .char ++ ·) := by
  induction text with
  | nil => cases hrest : segmentsFrom none rest <;> simp [doubled, hrest]
  | cons c more ih =>
      have hcons : doubled (c :: more) = doubled [c] ++ doubled more := by simp [doubled]
      rw [hcons, List.append_assoc, segmentsFrom_doubled_char, ih, Option.map_map]
      rfl

-- The digits of a slot are read up to the brace that closes it.
theorem segmentsFrom_digits {digits : List Char} (h : ∀ c ∈ digits, c.isDigit) (number : Nat)
    (rest : List Char) :
    segmentsFrom (some number) (digits ++ '\x7d' :: rest) =
      (segmentsFrom none rest).map (.slot (Nat.ofDigitChars 10 digits number) :: ·) := by
  induction digits generalizing number with
  | nil => simp [segmentsFrom, Nat.ofDigitChars]
  | cons c more ih =>
      rw [List.forall_mem_cons] at h
      have hc : (c == '\x7d') = false := by
        rw [beq_eq_false_iff_ne]
        rintro rfl
        exact absurd h.1 (by decide)
      rw [List.cons_append, segmentsFrom, hc, if_neg Bool.false_ne_true, if_pos h.1, ih h.2,
        Nat.ofDigitChars_cons]

theorem segmentsFrom_slot (number : Nat) (rest : List Char) :
    segmentsFrom none ('\x7b' :: (toString number).toList ++ '\x7d' :: rest) =
      (segmentsFrom none rest).map (.slot number :: ·) := by
  have hdigits : (toString number).toList = Nat.toDigits 10 number := Nat.toList_repr
  have hall : ∀ c ∈ Nat.toDigits 10 number, c.isDigit :=
    fun c hc => Nat.isDigit_of_mem_toDigits (by decide) (by decide) hc
  have hnumber : Nat.ofDigitChars 10 (Nat.toDigits 10 number) 0 = number :=
    Nat.ofDigitChars_toDigits (by decide) (by decide)
  obtain ⟨first, more, hcons⟩ :=
    List.exists_cons_of_ne_nil (Nat.toDigits_ne_nil : Nat.toDigits 10 number ≠ [])
  rw [hcons, List.forall_mem_cons] at hall
  rw [hcons, Nat.ofDigitChars_cons, Nat.mul_zero, Nat.zero_add] at hnumber
  have hfirst : (first == '\x7b') = false := by
    rw [beq_eq_false_iff_ne]
    rintro rfl
    exact absurd hall.1 (by decide)
  rw [hdigits, hcons, List.cons_append, List.cons_append, segmentsFrom]
  simp only [beq_self_eq_true, if_true, hfirst, Bool.false_eq_true, if_false, hall.1]
  rw [segmentsFrom_digits hall.2, hnumber]

end Filling

-- The value of a placeholder, given the values of the identifiers that stand for placeholders.
def slotValue? (table : Placeholders) (value : String → String) (name : List Char) :
    Option (List Char) :=
  (slotIdentifier? table name).map fun identifier => (value identifier).toList

section Format

variable {table : Placeholders} {value : String → String} {identifiers : List String}

-- What a piece of a text becomes in a format text.
def Piece.segments (table : Placeholders) (identifiers : List String) : Piece → List Segment
  | .char c => [.char c]
  | .slot name =>
      match slotIdentifier? table name with
      | some identifier => [.slot (identifiers.idxOf identifier)]
      | none => ('<' :: name ++ ['>']).map .char

theorem segmentsFrom_formatPiece (piece : Piece) (rest : List Char) :
    segmentsFrom none (formatPiece table identifiers piece ++ rest) =
      (segmentsFrom none rest).map (piece.segments table identifiers ++ ·) := by
  cases piece with
  | char c => exact segmentsFrom_doubled_char c rest
  | slot name =>
      cases hid : slotIdentifier? table name with
      | none =>
          have hformat : formatPiece table identifiers (.slot name) =
              doubled ('<' :: name ++ ['>']) := by
            simp [formatPiece, hid, doubled]
          rw [hformat, segmentsFrom_doubled, Piece.segments, hid]
      | some identifier =>
          have hformat : formatPiece table identifiers (.slot name) ++ rest =
              '\x7b' :: (toString (identifiers.idxOf identifier)).toList ++ '\x7d' :: rest := by
            simp [formatPiece, hid]
          rw [hformat, segmentsFrom_slot, Piece.segments, hid]
          rfl

-- A format text is read as it was put together, whatever braces stand next to its slots.
theorem segmentsFrom_format (text : List Piece) :
    segmentsFrom none (text.flatMap (formatPiece table identifiers)) =
      some (text.flatMap (·.segments table identifiers)) := by
  induction text with
  | nil => rfl
  | cons piece rest ih =>
      rw [List.flatMap_cons, segmentsFrom_formatPiece, ih]
      rfl

theorem fillAll_chars (text : List Char) :
    fillAll (identifiers.map value) (text.map .char) = some text := by
  induction text with
  | nil => rfl
  | cons c rest ih =>
      rw [List.map_cons, fillAll_cons, ih]
      rfl

theorem fillAll_segments {piece : Piece}
    (h : ∀ identifier, pieceIdentifier? table piece = some identifier → identifier ∈ identifiers) :
    fillAll (identifiers.map value) (piece.segments table identifiers) =
      some (piece.replaced (slotValue? table value)) := by
  cases piece with
  | char c => rfl
  | slot name =>
      cases hid : slotIdentifier? table name with
      | none =>
          rw [Piece.segments, Piece.replaced, slotValue?, hid]
          exact fillAll_chars _
      | some identifier =>
          have hlt := List.idxOf_lt_length_iff.mpr (h identifier hid)
          have hvalue : (identifiers.map value)[identifiers.idxOf identifier]? =
              some (value identifier) := by
            rw [List.getElem?_map, List.getElem?_eq_getElem hlt, List.getElem_idxOf hlt]
            rfl
          rw [Piece.segments, Piece.replaced, slotValue?, hid]
          simp [fillAll, Segment.filled?, hvalue]

-- Formatting undoes the doubled braces and fills every slot.
theorem fillFrom_format {text : List Piece}
    (h : ∀ identifier ∈ text.filterMap (pieceIdentifier? table), identifier ∈ identifiers) :
    fillFrom (identifiers.map value) none (text.flatMap (formatPiece table identifiers)) =
      some (text.flatMap (·.replaced (slotValue? table value))) := by
  rw [fillFrom_eq_fillAll, segmentsFrom_format, Option.bind_some]
  induction text with
  | nil => rfl
  | cons piece rest ih =>
      have hpiece : ∀ identifier, pieceIdentifier? table piece = some identifier →
          identifier ∈ identifiers :=
        fun identifier hid => h identifier (List.mem_filterMap.mpr ⟨piece, List.mem_cons_self, hid⟩)
      have hrest : ∀ identifier ∈ rest.filterMap (pieceIdentifier? table),
          identifier ∈ identifiers := by
        intro identifier hmem
        obtain ⟨other, hother, hid⟩ := List.mem_filterMap.mp hmem
        exact h identifier (List.mem_filterMap.mpr ⟨other, List.mem_cons_of_mem _ hother, hid⟩)
      rw [List.flatMap_cons, fillAll_append, fillAll_segments hpiece, ih hrest]
      rfl

theorem fillFrom_formatText (text : List Char) :
    fillFrom ((slotArguments table (pieces text)).map value) none
        (formatText table (slotArguments table (pieces text)) (pieces text)).toList =
      some (replaced (slotValue? table value) text) := by
  rw [formatText, String.toList_ofList, replaced_eq_pieces]
  apply fillFrom_format
  intro identifier hmem
  exact List.mem_eraseDups.mpr hmem

-- A text without placeholders that are known stays as it is.
theorem replaced_of_slotArguments_eq_nil {text : List Char}
    (h : slotArguments table (pieces text) = []) :
    replaced (slotValue? table value) text = text := by
  have hnone : ∀ piece ∈ pieces text, pieceIdentifier? table piece = none := by
    intro piece hpiece
    by_contra hsome
    obtain ⟨identifier, hid⟩ := Option.ne_none_iff_exists'.mp hsome
    have hmem : identifier ∈ slotArguments table (pieces text) :=
      List.mem_eraseDups.mpr (List.mem_filterMap.mpr ⟨piece, hpiece, hid⟩)
    rw [h] at hmem
    cases hmem
  calc replaced (slotValue? table value) text
      = (pieces text).flatMap (·.replaced fun _ => none) := by
        rw [replaced_eq_pieces, List.flatMap_def, List.flatMap_def]
        congr 1
        apply List.map_congr_left
        intro piece hpiece
        cases piece with
        | char c => rfl
        | slot name =>
            have hid : slotIdentifier? table name = none := hnone _ hpiece
            simp [Piece.replaced, slotValue?, hid]
    _ = replaced (fun _ => none) text := (replaced_eq_pieces _ text).symm
    _ = text := replacedFrom_none 0 text

end Format

end Rehearsal.Outline
