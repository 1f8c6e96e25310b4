import Rehearsal.Feature.Reader
import Rehearsal.Proofs.Feature.Row

namespace Rehearsal.Row

-- A text in units: a backslash with the character after it, any other character alone.
def units : List Char → List (List Char)
  | [] => []
  | [c] => [[c]]
  | c :: next :: rest => if c = '\\' then [c, next] :: units rest else [c] :: units (next :: rest)

def bars (text : List Char) : Nat := (units text).count ['|']

-- The units after the last bar that no backslash belongs to.
def afterLastBar (text : List Char) : List (List Char) := (units text).rtakeWhile (· ≠ ['|'])

-- A written line feed is as blank as the blanks themselves.
def IsVoid (unit : List Char) : Prop := unit = ['\\', 'n'] ∨ ∀ c ∈ unit, Text.isBlank c

instance (unit : List Char) : Decidable (IsVoid unit) :=
  decidable_of_iff (unit = ['\\', 'n'] ∨ unit.all Text.isBlank) (by simp [IsVoid])

-- Something stands behind the last bar of the row with that text after its first bar.
def IsOpen (text : List Char) : Prop := ∃ unit ∈ afterLastBar ('|' :: text), ¬IsVoid unit

instance (text : List Char) : Decidable (IsOpen text) :=
  decidable_of_iff ((afterLastBar ('|' :: text)).any fun unit => ¬IsVoid unit) (by simp [IsOpen])

-- What a unit says, with none for the bar that ends a cell.
def meaning : List Char → List (Option Char)
  | ['\\', c] => unescaped c
  | unit => unit.map mark

theorem units_cons {c : Char} (h : c ≠ '\\') (rest : List Char) :
    units (c :: rest) = [c] :: units rest := by
  cases rest with
  | nil => rfl
  | cons next others => simp [units, h]

theorem mem_units {text unit : List Char} (h : unit ∈ units text) :
    (∃ c, unit = [c]) ∨ ∃ c, unit = ['\\', c] := by
  fun_induction units text with
  | case1 => simp at h
  | case2 c => exact .inl ⟨c, by simpa using h⟩
  | case3 next rest ih =>
      obtain rfl | hrest := List.mem_cons.mp h
      · exact .inr ⟨next, rfl⟩
      · exact ih hrest
  | case4 c next rest _ ih =>
      obtain rfl | hrest := List.mem_cons.mp h
      · exact .inl ⟨c, rfl⟩
      · exact ih hrest

-- The characters of a row are those of its units.
theorem marks_eq_flatMap_meaning (text : List Char) :
    marks text = (units text).flatMap meaning := by
  fun_induction units text with
  | case1 => rfl
  | case2 c => simp [marks, meaning]
  | case3 next rest ih => rw [marks, if_pos (by simp), ih, List.flatMap_cons, meaning]
  | case4 c next rest hslash ih =>
      rw [marks_cons hslash, ih, List.flatMap_cons]
      simp [meaning]

theorem count_none_meaning {text unit : List Char} (h : unit ∈ units text) :
    (meaning unit).count none = if unit = ['|'] then 1 else 0 := by
  obtain ⟨c, rfl⟩ | ⟨c, rfl⟩ := mem_units h
  · by_cases hc : c = '|' <;> simp [meaning, mark, hc]
  · simp only [meaning, unescaped]
    split_ifs <;> simp_all

theorem count_none_flatMap_meaning {text : List Char} {part : List (List Char)}
    (h : part ⊆ units text) : (part.flatMap meaning).count none = part.count ['|'] := by
  induction part with
  | nil => rfl
  | cons unit rest ih =>
      rw [List.cons_subset] at h
      rw [List.flatMap_cons, List.count_append, count_none_meaning h.1, ih h.2, List.count_cons]
      simp [Nat.add_comm]

-- A unit without a bar says some characters, all of them blank exactly if it is void.
theorem meaning_of_ne_bar {text unit : List Char} (h : unit ∈ units text) (hbar : unit ≠ ['|']) :
    ∃ said : List Char, meaning unit = said.map some ∧
      ((∀ c ∈ said, Text.isBlank c) ↔ IsVoid unit) := by
  obtain ⟨c, rfl⟩ | ⟨c, rfl⟩ := mem_units h
  · have hc : c ≠ '|' := by simpa using hbar
    exact ⟨[c], by simp [meaning, mark, hc], by simp [IsVoid]⟩
  · have hslash : Text.isBlank '\\' = false := by decide
    have hmarks : Text.isBlank '|' = false := by decide
    have hfeed : Text.isBlank '\n' := by decide
    simp only [meaning, unescaped, beq_iff_eq, Bool.or_eq_true]
    split_ifs with hn hspecial
    · exact ⟨['\n'], rfl, by simp [IsVoid, hn, hfeed]⟩
    · refine ⟨[c], rfl, ?_⟩
      obtain rfl | rfl := hspecial <;> simp [IsVoid, hslash, hmarks]
    · exact ⟨['\\', c], rfl, by simp [IsVoid, hslash, hn]⟩

theorem flatMap_meaning_of_no_bar {text : List Char} {rest : List (List Char)}
    (h : rest ⊆ units text) (hbar : ['|'] ∉ rest) :
    ∃ said : List Char, rest.flatMap meaning = said.map some ∧
      ((∀ c ∈ said, Text.isBlank c) ↔ ∀ unit ∈ rest, IsVoid unit) := by
  induction rest with
  | nil => exact ⟨[], rfl, by simp⟩
  | cons unit others ih =>
      rw [List.cons_subset] at h
      rw [List.mem_cons, not_or] at hbar
      obtain ⟨first, hfirst, hvoid⟩ := meaning_of_ne_bar h.1 (Ne.symm hbar.1)
      obtain ⟨said, hsaid, hothers⟩ := ih h.2 hbar.2
      refine ⟨first ++ said, by rw [List.flatMap_cons, hfirst, hsaid, List.map_append], ?_⟩
      rw [List.forall_mem_append, hvoid, hothers, List.forall_mem_cons]

-- Whether a row ends is decided behind any of its bars.
theorem cut_append_none {front rest : List (Option Char)} {cell : List Char} :
    cut cell (front ++ none :: rest) = none ↔ cut [] rest = none := by
  induction front generalizing cell with
  | nil => simp [cut]
  | cons mark more ih => cases mark <;> simp [cut, ih]

theorem cut_map_some_eq_none_iff {cell said : List Char} :
    cut cell (said.map some) = none ↔ ¬∀ c ∈ cell ++ said, Text.isBlank c := by
  induction said generalizing cell with
  | nil => simp [cut]
  | cons c rest ih => rw [List.map_cons, cut, ih, List.append_assoc, List.singleton_append]

theorem length_of_cut {cell : List Char} {marks : List (Option Char)} {cells : List (List Char)}
    (h : cut cell marks = some cells) : cells.length = marks.count none := by
  induction marks generalizing cell cells with
  | nil =>
      simp only [cut, Option.ite_none_right_eq_some, Option.some.injEq] at h
      simp [← h.2]
  | cons mark rest ih =>
      cases mark with
      | some c => simpa using ih h
      | none =>
          obtain ⟨others, hothers, rfl⟩ := Option.map_eq_some_iff.mp h
          simp [ih hothers]

-- The last bar of a line that starts with one.
theorem exists_units_eq (text : List Char) :
    ∃ front, units ('|' :: text) = front ++ ['|'] :: afterLastBar ('|' :: text) := by
  let isOther : List Char → Bool := (· ≠ ['|'])
  have hne : (units ('|' :: text)).rdropWhile isOther ≠ [] := by
    rw [Ne, List.rdropWhile_eq_nil_iff, units_cons (by decide)]
    simp [isOther]
  have hlast := List.rdropWhile_last_not isOther _ hne
  have hsplit := List.dropLast_append_getLast hne
  have hbar : ((units ('|' :: text)).rdropWhile isOther).getLast hne = ['|'] := by
    simpa [isOther] using hlast
  rw [hbar] at hsplit
  refine ⟨((units ('|' :: text)).rdropWhile isOther).dropLast, ?_⟩
  have hwhole := @List.rdropWhile_append_rtakeWhile _ isOther (units ('|' :: text))
  rw [← hsplit, List.append_assoc, List.singleton_append] at hwhole
  exact hwhole.symm

-- A row is open exactly if something stands behind its last bar. A written line feed is nothing.
theorem cells?_eq_none_iff {text : List Char} :
    cells? text = none ↔ IsOpen text := by
  obtain ⟨front, hfront⟩ := exists_units_eq text
  have hsub : afterLastBar ('|' :: text) ⊆ units ('|' :: text) :=
    (List.rtakeWhile_suffix _ _).subset
  have hbar : ['|'] ∉ afterLastBar ('|' :: text) := by
    intro h
    simpa using List.mem_rtakeWhile_imp h
  obtain ⟨said, hsaid, hvoid⟩ := flatMap_meaning_of_no_bar hsub hbar
  have hmarks : none :: marks text = front.flatMap meaning ++ none :: said.map some := by
    rw [← hsaid, ← show mark '|' = none from rfl, ← marks_cons (by decide),
      marks_eq_flatMap_meaning, hfront, List.flatMap_append, List.flatMap_cons]
    rfl
  calc cells? text = none
    _ ↔ cut [] ([] ++ none :: marks text) = none := by
        rw [cut_append_none, cells?, Option.map_eq_none_iff]
    _ ↔ ¬∀ c ∈ said, Text.isBlank c := by
        rw [List.nil_append, hmarks, cut_append_none, cut_map_some_eq_none_iff, List.nil_append]
    _ ↔ IsOpen text := by
        rw [hvoid, IsOpen]
        push Not
        rfl

theorem length_cells {text : List Char} {cells : List String} (h : cells? text = some cells) :
    cells.length = bars text := by
  obtain ⟨read, hread, rfl⟩ := Option.map_eq_some_iff.mp h
  rw [List.length_map, length_of_cut hread, marks_eq_flatMap_meaning,
    count_none_flatMap_meaning (List.Subset.refl _), bars]

theorem isOpen_iff_of_no_feed {text : List Char} (h : ['\\', 'n'] ∉ afterLastBar ('|' :: text)) :
    IsOpen text ↔ ∃ c ∈ (afterLastBar ('|' :: text)).flatten, Text.isBlank c = false := by
  have hvoid : ∀ unit ∈ afterLastBar ('|' :: text), ¬IsVoid unit ↔
      ∃ c ∈ unit, Text.isBlank c = false := by
    intro unit hunit
    have hne : unit ≠ ['\\', 'n'] := fun heq => h (heq ▸ hunit)
    simp [IsVoid, hne]
  simp only [IsOpen, List.mem_flatten]
  constructor
  · rintro ⟨unit, hunit, hsolid⟩
    obtain ⟨c, hc, hblank⟩ := (hvoid unit hunit).mp hsolid
    exact ⟨c, ⟨unit, hunit, hc⟩, hblank⟩
  · rintro ⟨c, ⟨unit, hunit, hc⟩, hblank⟩
    exact ⟨unit, hunit, (hvoid unit hunit).mpr ⟨c, hc, hblank⟩⟩

theorem map_ne_error {ε α β : Type} {f : α → β} {x : Except ε α} {e : ε} (h : x ≠ .error e) :
    x.map f ≠ .error e := by
  cases x <;> simp_all [Except.map]

-- Of the faults of a table, only the open row comes from the text of the row alone.
theorem takeRow_eq_openRow_iff {reading : Reading} {text : List Char} :
    reading.takeRow text = .error .openRow ↔ cells? text = none := by
  cases h : cells? text with
  | none => simp [Reading.takeRow, h]
  | some cells =>
      have hexamples : ∀ examples, Reading.addToExamples cells examples ≠ .error .openRow := by
        intro examples
        unfold Reading.addToExamples
        split <;> [skip; split_ifs] <;> simp
      have hstep : ∀ step, Reading.addToStep cells step ≠ .error .openRow := by
        intro step
        unfold Reading.addToStep
        split <;> [skip; split_ifs; skip] <;> simp
      suffices reading.takeRow text ≠ .error .openRow by simpa using this
      unfold Reading.takeRow
      rw [h]
      cases reading.feature with
      | none => simp
      | some feature =>
          dsimp only
          split
          · exact map_ne_error (hexamples _)
          · exact map_ne_error (hstep _)
          · simp

-- Cells are read back as they were written. A row is refused exactly if it is open, and has a cell
-- for each bar after the first otherwise. Without a written line feed behind the last bar, open
-- means that some character there is not blank.
theorem cells?_exact (cells : List Padded) (text : List Char) :
    ((∀ p ∈ cells, p.IsProper) →
      cells? (ofPadded cells) = some (cells.map fun p => String.ofList p.cell)) ∧
    (∀ reading : Reading, reading.takeRow text = .error .openRow ↔ IsOpen text) ∧
    (IsOpen text → cells? text = none) ∧
    (¬IsOpen text → ∃ read, cells? text = some read ∧ read.length = bars text) ∧
    (['\\', 'n'] ∉ afterLastBar ('|' :: text) →
      (IsOpen text ↔ ∃ c ∈ (afterLastBar ('|' :: text)).flatten, Text.isBlank c = false)) := by
  refine ⟨cells?_ofPadded, fun reading => ?_, ?_, fun h => ?_, ?_⟩
  · rw [takeRow_eq_openRow_iff, cells?_eq_none_iff]
  · exact cells?_eq_none_iff.mpr
  · obtain ⟨read, hread⟩ := Option.ne_none_iff_exists'.mp (mt cells?_eq_none_iff.mp h)
    exact ⟨read, hread, length_cells hread⟩
  · exact isOpen_iff_of_no_feed

def herbs : List Padded :=
  [⟨[' '], "a|b".toList, ['\t']⟩, ⟨[], [], []⟩, ⟨[' ', ' '], "x\\\ny".toList, [' ']⟩]

theorem cells?_exact_herbs :
    (∀ p ∈ herbs, p.IsProper) ∧ ofPadded herbs = " a\\|b\t||  x\\\\\\ny |".toList ∧
    cells? (ofPadded herbs) = some ["a|b", "", "x\\\ny"] ∧
    (¬IsOpen " dill | \\n".toList ∧
      ∃ cells, cells? " dill | \\n".toList = some cells ∧ cells.length = 1) ∧
    IsOpen " dill | \\|".toList ∧ cells? " dill | \\|".toList = none ∧
    ['\\', 'n'] ∉ afterLastBar "| dill | \\|".toList ∧
      ∃ c ∈ (afterLastBar "| dill | \\|".toList).flatten, Text.isBlank c = false := by
  have hherbs : ∀ p ∈ herbs, p.IsProper := by decide
  have hshut : ¬IsOpen " dill | \\n".toList := by decide
  have hopen : IsOpen " dill | \\|".toList := by decide
  have hfeed : ['\\', 'n'] ∉ afterLastBar "| dill | \\|".toList := by decide
  obtain ⟨hread, -, -, hcells, -⟩ := cells?_exact herbs " dill | \\n".toList
  obtain ⟨-, -, hrefused, -, hblank⟩ := cells?_exact herbs " dill | \\|".toList
  exact ⟨hherbs, by decide, hread hherbs, ⟨hshut, hcells hshut⟩, hopen, hrefused hopen, hfeed,
    (hblank hfeed).mp hopen⟩

-- A written line feed behind the last bar is lost, though the row does not end with a bar.
theorem cells?_drops_feed :
    cells? " dill | \\n".toList = some ["dill"] ∧
    (afterLastBar "| dill | \\n".toList).flatten = " \\n".toList ∧
    ¬∀ c ∈ (afterLastBar "| dill | \\n".toList).flatten, Text.isBlank c := by
  refine ⟨by decide, by decide, fun h => ?_⟩
  exact absurd (h '\\' (by decide)) (by decide)

end Rehearsal.Row
