import Mathlib.Data.List.DropRight
import Rehearsal.Code.Render
import Rehearsal.Text.Escape

namespace Rehearsal.Code

namespace Source

-- Escapes of one character in a literal.
def escaped? (c : Char) : Option Char :=
  [('\\', '\\'), ('\x27', '\x27'), ('"', '"'), ('a', '\x07'), ('b', '\x08'), ('f', '\x0c'),
   ('n', '\n'), ('r', '\r'), ('t', '\t'), ('v', '\x0b')].lookup c

def isOctal (c : Char) : Bool := decide ('0' ≤ c ∧ c ≤ '7')

-- What the characters after a backslash stand for, and how many of them do. A backslash at the
-- end of a line joins it with the next one, and a backslash that starts no escape stands for
-- itself. Characters are not known by their names.
def escape? : List Char → Option (List Char × Nat)
  | [] => none
  | c :: rest =>
      if c == '\n' then some ([], 1)
      else if c == 'N' then none
      else if isOctal c then
        let digits := ((c :: rest).take 3).takeWhile isOctal
        some ([Char.ofNat (Text.ofDigits 8 digits)], digits.length)
      else
        match escaped? c, Text.escapeWidth? c with
        | some char, _ => some ([char], 1)
        | none, some width =>
            if rest.length < width then none
            else (Text.codePoint? (rest.take width)).map fun char => ([char], width + 1)
        | none, none => some (['\\', c], 1)

-- The text that the inside of a literal stands for. The count says how many characters of the
-- last escape are still to be passed over.
def valueFrom : Nat → List Char → Option (List Char)
  | _, [] => some []
  | skip + 1, _ :: rest => valueFrom skip rest
  | 0, c :: rest =>
      if c == '\\' then
        (escape? rest).bind fun (chars, used) => (valueFrom used rest).map (chars ++ ·)
      else (valueFrom 0 rest).map (c :: ·)

-- The inside of a long literal, up to the first three quotes in a row, and what comes after them.
-- A backslash takes the character after it along.
def closed? : List Char → Option (List Char × List Char)
  | [] => none
  | '\\' :: c :: rest => (closed? rest).map fun (inside, after) => ('\\' :: c :: inside, after)
  | '"' :: '"' :: '"' :: rest => some ([], rest)
  | c :: rest => (closed? rest).map fun (inside, after) => (c :: inside, after)

-- The value of the literal between three quotes that a source starts with, and the source after it.
def long? : List Char → Option (List Char × List Char)
  | '"' :: '"' :: '"' :: rest =>
      (closed? rest).bind fun (inside, after) => (valueFrom 0 inside).map (·, after)
  | _ => none

end Source

open Source

def quotes : List Char := ['"', '"', '"']

-- The number of quotes at the end of a text.
def endQuotes (text : List Char) : Nat := (text.rtakeWhile (· == '"')).length

theorem endQuotes_append {back : List Char} (h : ∀ c ∈ back, c = '"') (front : List Char) :
    endQuotes (front ++ back) = endQuotes front + back.length := by
  simp only [endQuotes, List.rtakeWhile, List.length_reverse, List.reverse_append]
  rw [List.takeWhile_append_of_pos (by simpa using h), List.length_append, List.length_reverse,
    Nat.add_comm]

theorem endQuotes_append_other {back : List Char} (h : ¬∀ c ∈ back, c = '"') (front : List Char) :
    endQuotes (front ++ back) = endQuotes back := by
  simp only [endQuotes, List.rtakeWhile, List.length_reverse, List.reverse_append]
  rw [List.takeWhile_append, if_neg]
  intro hlength
  have hself := (List.takeWhile_prefix (· == '"')).eq_of_length hlength
  exact h (by simpa using hself)

theorem endQuotes_of_forall {text : List Char} (h : ∀ c ∈ text, c = '"') :
    endQuotes text = text.length := by
  have hwhole : text.rtakeWhile (· == '"') = text :=
    List.rtakeWhile_eq_self_iff.mpr (by simpa using h)
  rw [endQuotes, hwhole]

theorem docEscaped_cons {c : Char} {rest : List Char} (hc : c ≠ '\\') (h : ¬ quotes <+: c :: rest) :
    docEscaped (c :: rest) = c :: docEscaped rest := by
  rw [docEscaped]
  · rintro more rfl rfl
    exact h ⟨more, rfl⟩
  · exact hc

theorem closed?_cons {c : Char} {rest : List Char} (hc : c ≠ '\\') (h : ¬ quotes <+: c :: rest) :
    closed? (c :: rest) = (closed? rest).map fun (inside, after) => (c :: inside, after) := by
  rw [closed?]
  · rintro d more rfl
    exact absurd rfl hc
  · rintro more rfl rfl
    exact h ⟨more, rfl⟩

theorem not_quotes_cons {c : Char} {rest : List Char}
    (h : ∀ more, c = '"' → rest = '"' :: '"' :: more → False) : ¬ quotes <+: c :: rest := by
  rintro ⟨more, hmore⟩
  cases hmore
  exact h more rfl rfl

-- Three quotes at the start of a longer text stand at the start of the text itself.
theorem not_quotes_append {text : List Char} (h : ¬ quotes <+: text)
    (hother : ¬ ∀ c ∈ text, c = '"') (back : List Char) : ¬ quotes <+: text ++ back := by
  intro hquotes
  rcases List.prefix_or_prefix_of_prefix hquotes (List.prefix_append text back) with hin | hin
  · exact h hin
  · refine hother fun c hc => ?_
    have := hin.subset hc
    simpa [quotes] using this

theorem mem_docEscaped {c : Char} {text : List Char} (h : c ∈ text) : c ∈ docEscaped text := by
  fun_induction docEscaped text with
  | case1 => exact h
  | case2 rest ih => simp at h ⊢; tauto
  | case3 rest ih => simp at h ⊢; tauto
  | case4 d rest _ _ ih => simp at h ⊢; tauto

-- A quote that shows after escaping was there before it.
theorem docEscaped_eq_quote_cons {text rest : List Char} (h : docEscaped text = '"' :: rest) :
    ¬ quotes <+: text ∧ ∃ more, text = '"' :: more ∧ rest = docEscaped more := by
  cases text with
  | nil => cases h
  | cons c more =>
      have hnot : ¬ quotes <+: c :: more := by
        rintro ⟨tail, htail⟩
        rw [← htail] at h
        cases h
      have hc : c ≠ '\\' := by
        rintro rfl
        cases h
      rw [docEscaped_cons hc hnot] at h
      cases h
      exact ⟨hnot, more, rfl, rfl⟩

theorem not_quotes_docEscaped (text : List Char) : ¬ quotes <+: docEscaped text := by
  rintro ⟨tail, htail⟩
  obtain ⟨hnot, text₁, rfl, h₁⟩ := docEscaped_eq_quote_cons htail.symm
  obtain ⟨-, text₂, rfl, h₂⟩ := docEscaped_eq_quote_cons h₁.symm
  obtain ⟨-, text₃, rfl, -⟩ := docEscaped_eq_quote_cons h₂.symm
  exact hnot ⟨text₃, rfl⟩

-- Where the last quotes of a text come in threes, a quote that belongs to no three is followed by
-- another character.
theorem dvd_endQuotes_tail {c : Char} {rest : List Char} (h : ¬ quotes <+: c :: rest)
    (hdvd : 3 ∣ endQuotes (c :: rest)) :
    (¬ ∀ d ∈ c :: rest, d = '"') ∧ 3 ∣ endQuotes rest := by
  have hother : ¬ ∀ d ∈ c :: rest, d = '"' := by
    intro hall
    rw [endQuotes_of_forall hall, List.length_cons] at hdvd
    match rest with
    | [] | [_] => simp at hdvd
    | second :: third :: more =>
        simp only [List.forall_mem_cons] at hall
        obtain ⟨rfl, rfl, rfl, -⟩ := hall
        exact h ⟨more, rfl⟩
  refine ⟨hother, ?_⟩
  by_cases hrest : ∀ d ∈ rest, d = '"'
  · have hsplit := endQuotes_append hrest [c]
    have hc : c ≠ '"' := by
      rintro rfl
      exact hother (List.forall_mem_cons.mpr ⟨rfl, hrest⟩)
    have hnone : endQuotes [c] = 0 := by simp [endQuotes, List.rtakeWhile, hc]
    rw [List.singleton_append, hnone, Nat.zero_add, ← endQuotes_of_forall hrest] at hsplit
    rwa [← hsplit]
  · have hsplit := endQuotes_append_other hrest [c]
    rw [List.singleton_append] at hsplit
    rwa [← hsplit]

theorem dvd_endQuotes_quotes {rest : List Char} (h : 3 ∣ endQuotes (quotes ++ rest)) :
    3 ∣ endQuotes rest := by
  by_cases hall : ∀ c ∈ rest, c = '"'
  · have hthree : endQuotes quotes = 3 := rfl
    rw [endQuotes_append hall] at h
    rw [endQuotes_of_forall hall]
    omega
  · rwa [endQuotes_append_other hall] at h

theorem docEscaped_append {front : List Char} (h : 3 ∣ endQuotes front) (back : List Char) :
    docEscaped (front ++ back) = docEscaped front ++ docEscaped back := by
  fun_induction docEscaped front with
  | case1 => rfl
  | case2 rest ih => simp [docEscaped, ih (dvd_endQuotes_quotes h)]
  | case3 rest ih => simp [docEscaped, ih (dvd_endQuotes_tail (by simp [quotes]) h).2]
  | case4 c rest hquotes hc ih =>
      have hnot := not_quotes_cons hquotes
      obtain ⟨hother, hrest⟩ := dvd_endQuotes_tail hnot h
      have hwhole : ¬ quotes <+: c :: (rest ++ back) := not_quotes_append hnot hother back
      rw [List.cons_append, docEscaped_cons hc hwhole, ih hrest, List.cons_append]

-- What is written of such a text does not end a literal.
theorem closed?_docEscaped {text : List Char} (h : 3 ∣ endQuotes text) (rest : List Char) :
    closed? (docEscaped text ++ rest) =
      (closed? rest).map fun (inside, after) => (docEscaped text ++ inside, after) := by
  fun_induction docEscaped text with
  | case1 => simp
  | case2 more ih =>
      simp only [List.cons_append, closed?, ih (dvd_endQuotes_quotes h), Option.map_map]
      rfl
  | case3 more ih =>
      simp only [List.cons_append, closed?, ih (dvd_endQuotes_tail (by simp [quotes]) h).2,
        Option.map_map]
      rfl
  | case4 c more hquotes hc ih =>
      have hnot := not_quotes_cons hquotes
      obtain ⟨hother, hmore⟩ := dvd_endQuotes_tail hnot h
      have hwhole : ¬ quotes <+: c :: (docEscaped more ++ rest) := by
        have hescaped := not_quotes_docEscaped (c :: more)
        rw [docEscaped_cons hc hnot] at hescaped
        refine not_quotes_append hescaped (fun hall => hother fun d hd => hall d ?_) rest
        rw [← docEscaped_cons hc hnot]
        exact mem_docEscaped hd
      rw [List.cons_append, closed?_cons hc hwhole, ih hmore, Option.map_map]
      rfl

theorem valueFrom_escaped {c : Char} (hc : c = '\\' ∨ c = '"') (rest : List Char) :
    valueFrom 0 ('\\' :: c :: rest) = (valueFrom 0 rest).map (c :: ·) := by
  rcases hc with rfl | rfl <;> rfl

theorem valueFrom_cons {c : Char} (hc : c ≠ '\\') (rest : List Char) :
    valueFrom 0 (c :: rest) = (valueFrom 0 rest).map (c :: ·) := by
  simp [valueFrom, hc]

theorem valueFrom_docEscaped (text rest : List Char) :
    valueFrom 0 (docEscaped text ++ rest) = (valueFrom 0 rest).map (text ++ ·) := by
  fun_induction docEscaped text with
  | case1 => simp
  | case2 more ih =>
      simp only [List.cons_append, valueFrom_escaped (.inr rfl), ih, Option.map_map]
      rfl
  | case3 more ih =>
      simp only [List.cons_append, valueFrom_escaped (.inl rfl), ih, Option.map_map]
      rfl
  | case4 c more hquotes hc ih =>
      rw [List.cons_append, valueFrom_cons hc, ih, Option.map_map]
      rfl

theorem getLast?_docEscaped (text : List Char) : (docEscaped text).getLast? = text.getLast? := by
  fun_induction docEscaped text with
  | case1 => rfl
  | case2 rest ih | case3 rest ih | case4 _ rest _ _ ih => simp [List.getLast?_cons, ih]

theorem guardLast_concat (front : List Char) :
    guardLast (front ++ ['"']) = front ++ ['\\', '"'] := by
  simp [guardLast]

theorem guardLast_of_ne {text : List Char} (h : text.getLast? ≠ some '"') :
    guardLast text = text := by
  rw [List.getLast?_eq_head?_reverse] at h
  unfold guardLast
  split
  · rename_i front hfront
    simp [hfront] at h
  · rfl

theorem getLast?_ne_of_endQuotes {text : List Char} (h : endQuotes text = 0) :
    text.getLast? ≠ some '"' := by
  intro hlast
  obtain ⟨front, rfl⟩ := List.getLast?_eq_some_iff.mp hlast
  simp [endQuotes_append] at h

-- Some of the quotes at the end of a text, cut off.
theorem exists_append_replicate {text : List Char} {n : Nat} (h : n ≤ endQuotes text) :
    ∃ front, text = front ++ List.replicate n '"' ∧ endQuotes text = endQuotes front + n := by
  have hrun : text.rtakeWhile (· == '"') = List.replicate (endQuotes text) '"' :=
    List.eq_replicate_of_mem fun c hc => by simpa using List.mem_rtakeWhile_imp hc
  have hcut : text = text.rdropWhile (· == '"') ++ List.replicate (endQuotes text - n) '"' ++
      List.replicate n '"' := by
    rw [List.append_assoc, List.replicate_append_replicate, Nat.sub_add_cancel h, ← hrun,
      List.rdropWhile_append_rtakeWhile]
  refine ⟨_, hcut, ?_⟩
  conv_lhs => rw [hcut, endQuotes_append fun c hc => List.eq_of_mem_replicate hc]
  simp

-- Reading a literal goes through what is written of the front, and ends in what follows it.
theorem long?_of_front {text front tail inside after value : List Char}
    (hfront : 3 ∣ endQuotes front) (hguard : guardLast (docEscaped text) = docEscaped front ++ tail)
    (hclosed : closed? (tail ++ quotes) = some (inside, after))
    (hvalue : valueFrom 0 inside = some value) :
    long? (docLiteral text) = some (front ++ value, after) := by
  have hread : closed? (guardLast (docEscaped text) ++ quotes) =
      some (docEscaped front ++ inside, after) := by
    rw [hguard, List.append_assoc, closed?_docEscaped hfront, hclosed]
    rfl
  have hwhole : valueFrom 0 (docEscaped front ++ inside) = some (front ++ value) := by
    rw [valueFrom_docEscaped, hvalue]
    rfl
  have hlong : long? (docLiteral text) =
      (closed? (guardLast (docEscaped text) ++ quotes)).bind fun (inside, after) =>
        (valueFrom 0 inside).map (·, after) := rfl
  rw [hlong, hread, Option.bind_some]
  dsimp only
  rw [hwhole, Option.map_some]

-- A documentation literal ends where it should and stands for its text, unless the quotes at the
-- end of the text come in threes. Then the backslash for the last quote meets one that is there
-- already, both together stand for a backslash, and the literal ends one quote early.
theorem long?_docLiteral (text : List Char) :
    long? (docLiteral text) =
      if 3 ∣ endQuotes text ∧ endQuotes text ≠ 0 then some (text.dropLast ++ ['\\'], ['"'])
      else some (text, []) := by
  have hcut : ∀ n, n ≤ endQuotes text → 3 ∣ endQuotes text - n →
      ∃ front, text = front ++ List.replicate n '"' ∧ 3 ∣ endQuotes front ∧
        docEscaped text = docEscaped front ++ docEscaped (List.replicate n '"') := by
    intro n hle hdvd
    obtain ⟨front, hfront, hend⟩ := exists_append_replicate hle
    rw [hend, Nat.add_sub_cancel] at hdvd
    exact ⟨front, hfront, hdvd, by rw [hfront, docEscaped_append hdvd]⟩
  obtain hnone | hthrees | hone | htwo : endQuotes text = 0 ∨
      (3 ∣ endQuotes text ∧ endQuotes text ≠ 0) ∨ endQuotes text % 3 = 1 ∨
      endQuotes text % 3 = 2 := by omega
  · have hlast : (docEscaped text).getLast? ≠ some '"' := by
      rw [getLast?_docEscaped]
      exact getLast?_ne_of_endQuotes hnone
    have hguard : guardLast (docEscaped text) = docEscaped text ++ [] := by
      rw [guardLast_of_ne hlast, List.append_nil]
    rw [if_neg (by omega), long?_of_front (by omega) hguard rfl rfl, List.append_nil]
  · obtain ⟨front, hfront, hdvd, hescaped⟩ := hcut 3 (by omega) (by omega)
    have hguard : guardLast (docEscaped text) =
        docEscaped front ++ ['\\', '"', '\\', '"', '\\', '\\', '"'] := by
      have hquotes : docEscaped (List.replicate 3 '"') = ['\\', '"', '\\', '"', '\\'] ++ ['"'] := rfl
      rw [hescaped, hquotes, ← List.append_assoc, guardLast_concat, List.append_assoc]
      rfl
    rw [if_pos hthrees, long?_of_front hdvd hguard rfl rfl, hfront]
    simp
  · obtain ⟨front, hfront, hdvd, hescaped⟩ := hcut 1 (by omega) (by omega)
    have hguard : guardLast (docEscaped text) = docEscaped front ++ ['\\', '"'] := by
      rw [hescaped]
      exact guardLast_concat (docEscaped front)
    rw [if_neg (by omega), long?_of_front hdvd hguard rfl rfl, hfront]
    rfl
  · obtain ⟨front, hfront, hdvd, hescaped⟩ := hcut 2 (by omega) (by omega)
    have hguard : guardLast (docEscaped text) = docEscaped front ++ ['"', '\\', '"'] := by
      have hquotes : docEscaped (List.replicate 2 '"') = ['"'] ++ ['"'] := rfl
      rw [hescaped, hquotes, ← List.append_assoc, guardLast_concat, List.append_assoc]
      rfl
    rw [if_neg (by omega), long?_of_front hdvd hguard rfl rfl, hfront]
    rfl

-- The title of a test in quotes of its own. The last quote is left over after the literal.
theorem docLines_cut_short :
    docLines (some "Say \"\"\"") = ["\"\"\"Say \\\"\\\"\\\\\"\"\"\""] ∧
    long? "\"\"\"Say \\\"\\\"\\\\\"\"\"\"".toList = some ("Say \"\"\\".toList, ['"']) := by
  decide +kernel

end Rehearsal.Code
