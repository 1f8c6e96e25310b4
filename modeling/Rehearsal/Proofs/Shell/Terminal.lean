import Rehearsal.Shell.Run

namespace Rehearsal.Shell

-- What a terminal obeys instead of showing it: an escape, parameters and a letter.
def IsSequence (text : List Char) : Prop :=
  ∃ parameters letter, text = '\x1b' :: '[' :: (parameters ++ [letter]) ∧
    (∀ c ∈ parameters, c = ';' ∨ c = '?' ∨ c.isDigit) ∧ letter.isAlpha

-- A text without its sequences. They are found from the left.
inductive Strips : List Char → List Char → Prop where
  | nil : Strips [] []
  | sequence {front rest shown : List Char} (h : IsSequence front) (after : Strips rest shown) :
      Strips (front ++ rest) shown
  | keep {c : Char} {rest shown : List Char}
      (h : ∀ front back, c :: rest = front ++ back → ¬ IsSequence front)
      (after : Strips rest shown) : Strips (c :: rest) (c :: shown)

-- What is seen of a text that is printed. Sequences are sent to a terminal only.
def Shows (isTerminal : Bool) (text shown : String) : Prop :=
  if isTerminal then shown = text else Strips text.toList shown.toList

-- Texts are printed on lines of their own.
def Echoes (isTerminal : Bool) (print : String → String) : Prop :=
  ∀ text, ∃ shown, Shows isTerminal text shown ∧ print text = shown ++ "\n"

theorem isParameter_iff {c : Char} : isParameter c ↔ c = ';' ∨ c = '?' ∨ c.isDigit := by
  simp [isParameter, or_assoc]

theorem not_isDigit_of_isAlpha {c : Char} (h : c.isAlpha) : ¬ c.isDigit := by
  intro hdigit
  unfold Char.isAlpha Char.isUpper Char.isLower at h
  unfold Char.isDigit at hdigit
  rw [Bool.or_eq_true, decide_eq_true_eq, Bool.and_eq_true, decide_eq_true_eq] at h
  rw [Bool.and_eq_true, decide_eq_true_eq, decide_eq_true_eq] at hdigit
  have hnine : c.val.toNat ≤ 57 := UInt32.le_iff_toNat_le.mp hdigit.2
  obtain ⟨hletter, -⟩ | ⟨hletter, -⟩ := h
  · have hupper : 65 ≤ c.val.toNat := UInt32.le_iff_toNat_le.mp hletter
    omega
  · have hlower : 97 ≤ c.val.toNat := UInt32.le_iff_toNat_le.mp hletter
    omega

theorem not_isParameter_of_isAlpha {c : Char} (h : c.isAlpha) : ¬ isParameter c := by
  rw [isParameter_iff]
  rintro (rfl | rfl | hdigit)
  · exact absurd h (by decide)
  · exact absurd h (by decide)
  · exact not_isDigit_of_isAlpha h hdigit

theorem sequenceLength?_append {front : List Char} (h : IsSequence front) (back : List Char) :
    sequenceLength? (front ++ back) = some front.length := by
  obtain ⟨parameters, letter, rfl, hparameters, hletter⟩ := h
  have htake : (parameters ++ letter :: back).takeWhile isParameter = parameters := by
    rw [List.takeWhile_append_of_pos fun c hc => isParameter_iff.mpr (hparameters c hc),
      List.takeWhile_cons_of_neg (not_isParameter_of_isAlpha hletter), List.append_nil]
  have htext : '\x1b' :: '[' :: (parameters ++ [letter]) ++ back =
      '\x1b' :: '[' :: (parameters ++ letter :: back) := by simp
  rw [htext, sequenceLength?, htake]
  simp [hletter]

theorem exists_of_sequenceLength? {text : List Char} {length : Nat}
    (h : sequenceLength? text = some length) :
    ∃ front back, text = front ++ back ∧ IsSequence front ∧ front.length = length := by
  unfold sequenceLength? at h
  split at h
  · next rest =>
    dsimp only at h
    split at h
    · next c back hdrop =>
      split at h
      · next hletter =>
        have hsplit : rest = rest.takeWhile isParameter ++ c :: back := by
          have htake := List.prefix_iff_eq_take.mp (List.takeWhile_prefix (l := rest) isParameter)
          rw [← hdrop]
          exact (htake ▸ List.take_append_drop _ _).symm
        obtain rfl := Option.some.inj h
        refine ⟨'\x1b' :: '[' :: (rest.takeWhile isParameter ++ [c]), back, ?_,
          ⟨_, c, rfl, fun d hd => ?_, hletter⟩, by simp⟩
        · simpa using hsplit
        · exact isParameter_iff.mp (List.all_eq_true.mp List.all_takeWhile d hd)
      · cases h
    · cases h
  · cases h

theorem strippedFrom_eq_drop (skip : Nat) (text : List Char) :
    strippedFrom skip text = strippedFrom 0 (text.drop skip) := by
  induction skip generalizing text with
  | zero => rfl
  | succ skip ih =>
      cases text with
      | nil => rfl
      | cons c rest => exact ih rest

theorem strippedFrom_sequence {front : List Char} (h : IsSequence front) (back : List Char) :
    strippedFrom 0 (front ++ back) = strippedFrom 0 back := by
  have hlength := sequenceLength?_append h back
  obtain ⟨parameters, letter, rfl, -⟩ := h
  rw [List.cons_append] at hlength ⊢
  rw [strippedFrom, hlength]
  dsimp only
  rw [strippedFrom_eq_drop]
  congr 1
  exact List.drop_left

theorem strippedFrom_keep {c : Char} {rest : List Char}
    (h : ∀ front back, c :: rest = front ++ back → ¬ IsSequence front) :
    strippedFrom 0 (c :: rest) = c :: strippedFrom 0 rest := by
  rw [strippedFrom]
  cases hlength : sequenceLength? (c :: rest) with
  | none => rfl
  | some length =>
      obtain ⟨front, back, htext, hsequence, -⟩ := exists_of_sequenceLength? hlength
      exact absurd hsequence (h front back htext)

theorem strips_strippedFrom (text : List Char) : Strips text (strippedFrom 0 text) := by
  -- A sequence is passed over as a whole, so the induction is on the length.
  induction hlength : text.length using Nat.strongRecOn generalizing text with
  | _ length ih =>
      subst hlength
      cases text with
      | nil => exact .nil
      | cons c rest =>
          by_cases hstart : ∃ front back, c :: rest = front ++ back ∧ IsSequence front
          · obtain ⟨front, back, htext, hsequence⟩ := hstart
            rw [htext, strippedFrom_sequence hsequence]
            refine .sequence hsequence (ih _ ?_ back rfl)
            obtain ⟨parameters, letter, rfl, -⟩ := hsequence
            rw [htext, List.length_append]
            simp
          · have hkeep : ∀ front back, c :: rest = front ++ back → ¬ IsSequence front :=
              fun front back htext hsequence => hstart ⟨front, back, htext, hsequence⟩
            rw [strippedFrom_keep hkeep]
            exact .keep hkeep (ih _ (Nat.lt_succ_self _) rest rfl)

-- There is one way to strip a text.
theorem strips_iff {text shown : List Char} : Strips text shown ↔ shown = strippedFrom 0 text := by
  constructor
  · intro h
    induction h with
    | nil => rfl
    | sequence hsequence _ ih => rw [strippedFrom_sequence hsequence, ih]
    | keep hkeep _ ih => rw [strippedFrom_keep hkeep, ih]
  · rintro rfl
    exact strips_strippedFrom text

theorem Strips.length_le {text shown : List Char} (h : Strips text shown) :
    shown.length ≤ text.length := by
  induction h with
  | nil => exact Nat.le_refl _
  | sequence _ _ ih =>
      rw [List.length_append]
      omega
  | keep _ _ ih => exact Nat.succ_le_succ ih

-- Nothing is left out before the first escape.
theorem strippedFrom_append {front : List Char} (h : '\x1b' ∉ front) (back : List Char) :
    strippedFrom 0 (front ++ back) = front ++ strippedFrom 0 back := by
  induction front with
  | nil => rfl
  | cons c rest ih =>
      rw [List.mem_cons, not_or] at h
      rw [List.cons_append, strippedFrom_keep, ih h.2, List.cons_append]
      rintro _ _ htext ⟨parameters, letter, rfl, -⟩
      exact h.1 (List.cons.inj htext).1.symm

theorem strippedFrom_ne {front found : List Char} (h : '\x1b' ∉ front) (hfound : IsSequence found)
    (back : List Char) : strippedFrom 0 (front ++ (found ++ back)) ≠ front ++ (found ++ back) := by
  intro heq
  rw [strippedFrom_append h, strippedFrom_sequence hfound, List.append_cancel_left_eq] at heq
  have hshorter := (strips_strippedFrom back).length_le
  obtain ⟨parameters, letter, rfl, -⟩ := hfound
  rw [heq, List.length_append, List.length_cons] at hshorter
  omega

theorem Shows.eq_of_plain {isTerminal : Bool} {text shown : String} (h : Shows isTerminal text shown)
    (hplain : '\x1b' ∉ text.toList) : shown = text := by
  unfold Shows at h
  split at h
  · exact h
  · have hkept := strippedFrom_append hplain []
    rw [List.append_nil] at hkept
    rw [← String.toList_inj, strips_iff.mp h, hkept]
    exact List.append_nil _

theorem echoes_print (isTerminal : Bool) : Echoes isTerminal (print isTerminal) := by
  intro text
  cases isTerminal with
  | true => exact ⟨text, rfl, rfl⟩
  | false => exact ⟨stripped text, strips_iff.mpr String.toList_ofList, rfl⟩

end Rehearsal.Shell
