import Mathlib.Data.List.Nodup
import Rehearsal.Proofs.Code.Playing
import Rehearsal.Proofs.Outline.Replacement
import Rehearsal.Proofs.Text.Blank
import Rehearsal.TestClass.Portion

namespace Rehearsal

open Code Outline

namespace Code

variable {X : Type}

-- A text as a value. A missing one is null.
def Val.ofText : Option String → Val X
  | some value => .text value
  | none => .null

-- Tags as a value. No tags are null.
def Val.ofTags (names : List String) : Val X :=
  if names.isEmpty then .null else .array (names.map .text)

theorem Evaluates.textOrNull {host : Host X} {s : State X} (value : Option String) :
    Evaluates host s (textOrNull value) (.ofText value) := by
  cases value with
  | none => exact .null
  | some value => exact .text value

theorem Evaluates.tagArray {host : Host X} {s : State X} (names : List String) :
    Evaluates host s (tagArray names) (.ofTags names) := by
  unfold Outline.tagArray Val.ofTags
  split
  · exact .nullOf _
  · apply Evaluates.stringArray
    rw [List.forall₂_map_left_iff, List.forall₂_map_right_iff, List.forall₂_same]
    exact fun name _ => .text name

end Code

namespace Outline

variable {X : Type}

-- The value of a placeholder in a row: that of the first column with its name. Blanks around the
-- name do not count.
def rowValue? (columns values : List String) (name : List Char) : Option (List Char) :=
  ((columns.zip values).lookup (String.ofList (Text.trim name))).map String.toList

-- A text in which the placeholders of a row have their values.
def inRow (columns values : List String) (text : String) : String :=
  String.ofList (replaced (rowValue? columns values) text.toList)

-- The variables that stand for placeholders have their values.
def Bound (s : State X) (table : Placeholders) (value : String → String) : Prop :=
  ∀ entry ∈ table.entries, s.locals entry.2 = some (.text (value entry.2))

theorem Bound.slotArguments {s : State X} {table : Placeholders} {value : String → String}
    (h : Bound s table value) (text : List Piece) :
    ∀ identifier ∈ slotArguments table text,
      s.locals identifier = some (.text (value identifier)) := by
  intro identifier hmem
  obtain ⟨piece, -, hpiece⟩ := List.mem_filterMap.mp (List.mem_eraseDups.mp hmem)
  cases piece with
  | char c => cases hpiece
  | slot name =>
      obtain ⟨front, back, hentries, -⟩ := List.lookup_eq_some_iff.mp hpiece
      have hentry : (trimmed (String.ofList (doubled name)), identifier) ∈ table.entries := by
        rw [hentries]
        exact List.mem_append_right _ List.mem_cons_self
      exact h _ hentry

theorem filled?_texts (template : String) (arguments : List String) :
    Val.filled? template (arguments.map (Val.text (X := X))) =
      (fillFrom arguments none template.toList).map fun filled => .text (String.ofList filled) := by
  have htexts : (arguments.map (Val.text (X := X))).mapM Val.text? = some arguments := by
    induction arguments with
    | nil => rfl
    | cons first others ih =>
        rw [List.map_cons, List.mapM_cons, ih]
        rfl
  rw [Val.filled?, htexts]
  rfl

-- A text for the runner is the text with the placeholders that are known replaced.
theorem evaluates_substituted {host : Host X} {s : State X} {table : Placeholders}
    {value : String → String} (h : Bound s table value) (text : Option String) :
    Evaluates host s (substituted (some table) text)
      (.ofText (text.map fun text =>
        String.ofList (replaced (slotValue? table value) text.toList))) := by
  cases text with
  | none => exact .nullOf _
  | some text =>
      cases harguments : slotArguments table (pieces text.toList) with
      | nil =>
          have hsubstituted : substituted (some table) (some text) = Code.text text := by
            simp [substituted, harguments]
          rw [hsubstituted, Option.map_some, replaced_of_slotArguments_eq_nil harguments,
            String.ofList_toList]
          exact .text text
      | cons first others =>
          have hsubstituted : substituted (some table) (some text) =
              .format
                (formatText table (slotArguments table (pieces text.toList)) (pieces text.toList))
                ((slotArguments table (pieces text.toList)).map .var) := by
            simp [substituted, harguments]
          have hvalues : List.Forall₂ (Evaluates host s)
              ((slotArguments table (pieces text.toList)).map .var)
              (((slotArguments table (pieces text.toList)).map value).map .text) := by
            rw [List.map_map, List.forall₂_map_left_iff, List.forall₂_map_right_iff,
              List.forall₂_same]
            exact fun identifier hmem => .var (h.slotArguments _ identifier hmem)
          rw [hsubstituted, Evaluates, eval, Exec.outcome_bind, evalAll_of_evaluates hvalues]
          dsimp only
          rw [filled?_texts, fillFrom_formatText]
          rfl

theorem evaluates_substitutedArray {host : Host X} {s : State X} {table : Placeholders}
    {value : String → String} (h : Bound s table value) (cells : List (Option String)) :
    Evaluates host s (substitutedArray (some table) cells)
      (.array (cells.map fun text => .ofText (text.map fun text =>
        String.ofList (replaced (slotValue? table value) text.toList)))) := by
  apply Evaluates.stringArray
  rw [List.forall₂_map_left_iff, List.forall₂_map_right_iff, List.forall₂_same]
  exact fun text _ => evaluates_substituted h text

end Outline

namespace TestClass

theorem entries_add {table : Placeholders} {column : String} (htrimmed : trimmed column = column)
    (hnew : table.entries.lookup column = none) :
    (table.add column (Identifier.camel column)).entries =
      table.entries ++ [(column, Identifier.camel column)] := by
  simp [Placeholders.add, htrimmed, hnew]

theorem lookup_append_singleton_eq_none {entries : List (String × String)}
    {column identifier key : String} :
    (entries ++ [(column, identifier)]).lookup key = none ↔
      entries.lookup key = none ∧ key ≠ column := by
  rw [List.lookup_append, Option.or_eq_none_iff]
  by_cases hkey : key = column
  · simp [hkey]
  · have hbeq : (key == column) = false := by simpa using hkey
    simp [List.lookup_cons, hbeq, hkey]

theorem entries_foldl_add {columns : List String} {table : Placeholders}
    (htrimmed : ∀ column ∈ columns, trimmed column = column) (hnodup : columns.Nodup)
    (hnew : ∀ column ∈ columns, table.entries.lookup column = none) :
    (columns.foldl (fun table column => table.add column (Identifier.camel column)) table).entries =
      table.entries ++ columns.map fun column => (column, Identifier.camel column) := by
  induction columns generalizing table with
  | nil => simp
  | cons column rest ih =>
      rw [List.forall_mem_cons] at htrimmed hnew
      rw [List.nodup_cons] at hnodup
      have hstill : ∀ other ∈ rest,
          (table.add column (Identifier.camel column)).entries.lookup other = none := by
        intro other hother
        rw [entries_add htrimmed.1 hnew.1, lookup_append_singleton_eq_none]
        exact ⟨hnew.2 other hother, fun heq => hnodup.1 (heq ▸ hother)⟩
      rw [List.foldl_cons, ih htrimmed.2 hnodup.2 hstill, entries_add htrimmed.1 hnew.1,
        List.append_assoc]
      rfl

-- Columns with names of their own are registered one by one.
theorem entries_placeholders {columns : List String}
    (htrimmed : ∀ column ∈ columns, trimmed column = column) (hnodup : columns.Nodup) :
    (placeholders columns).entries =
      columns.map fun column => (column, Identifier.camel column) := by
  rw [placeholders, entries_foldl_add htrimmed hnodup fun _ _ => rfl]
  rfl

theorem length_entries_foldl_add_le (columns : List String) (table : Placeholders) :
    (columns.foldl (fun table column => table.add column (Identifier.camel column))
      table).entries.length ≤ table.entries.length + columns.length := by
  induction columns generalizing table with
  | nil => exact Nat.le_refl _
  | cons column rest ih =>
      have hadd : (table.add column (Identifier.camel column)).entries.length ≤
          table.entries.length + 1 := by
        unfold Placeholders.add
        dsimp only
        split <;> simp
      rw [List.foldl_cons, List.length_cons]
      exact (ih _).trans (by omega)

-- A column whose name is taken is not registered, so as many entries as columns are only there
-- if no name is.
theorem nodup_of_length_entries {columns : List String} {table : Placeholders}
    (htrimmed : ∀ column ∈ columns, trimmed column = column)
    (h : (columns.foldl (fun table column => table.add column (Identifier.camel column))
      table).entries.length = table.entries.length + columns.length) :
    columns.Nodup ∧ ∀ column ∈ columns, table.entries.lookup column = none := by
  induction columns generalizing table with
  | nil => exact ⟨List.nodup_nil, by simp⟩
  | cons column rest ih =>
      rw [List.forall_mem_cons] at htrimmed
      rw [List.foldl_cons, List.length_cons] at h
      have hle := length_entries_foldl_add_le rest (table.add column (Identifier.camel column))
      cases hfound : table.entries.lookup column with
      | some identifier =>
          have hadd : table.add column (Identifier.camel column) = table := by
            simp [Placeholders.add, htrimmed.1, hfound]
          rw [hadd] at h hle
          omega
      | none =>
          have hadd := entries_add htrimmed.1 hfound
          have hlength : (table.add column (Identifier.camel column)).entries.length =
              table.entries.length + 1 := by
            rw [hadd, List.length_append]
            rfl
          have hrest : (rest.foldl (fun table column => table.add column (Identifier.camel column))
              (table.add column (Identifier.camel column))).entries.length =
                (table.add column (Identifier.camel column)).entries.length + rest.length := by
            omega
          obtain ⟨hnodup, hnew⟩ := ih htrimmed.2 hrest
          simp only [hadd, lookup_append_singleton_eq_none] at hnew
          refine ⟨List.nodup_cons.mpr ⟨fun hmem => (hnew column hmem).2 rfl, hnodup⟩, ?_⟩
          rw [List.forall_mem_cons]
          exact ⟨hfound, fun other hmem => (hnew other hmem).1⟩

theorem length_entries_placeholders {columns : List String}
    (htrimmed : ∀ column ∈ columns, trimmed column = column) :
    (placeholders columns).entries.length = columns.length ↔ columns.Nodup := by
  constructor
  · intro h
    exact (nodup_of_length_entries htrimmed (h.trans (Nat.zero_add _).symm)).1
  · intro hnodup
    rw [entries_placeholders htrimmed hnodup, List.length_map]

theorem lookup_map_pair {f : String → String} (columns : List String) (key : String) :
    (columns.map fun column => (column, f column)).lookup key =
      if key ∈ columns then some (f key) else none := by
  induction columns with
  | nil => rfl
  | cons column rest ih =>
      by_cases hkey : key = column
      · simp [hkey]
      · have hbeq : (key == column) = false := by simpa using hkey
        simp [List.lookup_cons, hbeq, ih, hkey]

theorem lookup_zip_eq_none {columns values : List String} {key : String} (h : key ∉ columns) :
    (columns.zip values).lookup key = none := by
  rw [List.lookup_eq_none_iff]
  intro entry hentry
  have hne : key ≠ entry.1 := fun heq => h (heq ▸ (List.of_mem_zip hentry).1)
  simpa using hne

theorem exists_lookup_zip {columns values : List String} (hlength : values.length = columns.length)
    {key : String} (h : key ∈ columns) : ∃ value, (columns.zip values).lookup key = some value := by
  induction columns generalizing values with
  | nil => cases h
  | cons column rest ih =>
      cases values with
      | nil => cases hlength
      | cons value others =>
          by_cases hkey : key = column
          · exact ⟨value, by simp [hkey]⟩
          · have hbeq : (key == column) = false := by simpa using hkey
            obtain ⟨found, hfound⟩ := ih (Nat.succ.inj hlength)
              ((List.mem_cons.mp h).resolve_left hkey)
            exact ⟨found, by simp [List.lookup_cons, hbeq, hfound]⟩

-- Renaming columns apart does not change what is found under them.
theorem lookup_zip_map {f : String → String} {columns values : List String}
    (hnodup : (columns.map f).Nodup) {key : String} (h : key ∈ columns) :
    ((columns.map f).zip values).lookup (f key) = (columns.zip values).lookup key := by
  induction columns generalizing values with
  | nil => cases h
  | cons column rest ih =>
      rw [List.map_cons, List.nodup_cons] at hnodup
      cases values with
      | nil => rfl
      | cons value others =>
          by_cases hkey : key = column
          · simp [hkey]
          · have hrest : key ∈ rest := (List.mem_cons.mp h).resolve_left hkey
            have hne : f key ≠ f column :=
              fun heq => hnodup.1 (heq ▸ List.mem_map_of_mem hrest)
            have hbeq : (key == column) = false := by simpa using hkey
            have hbeq' : (f key == f column) = false := by simpa using hne
            simp [List.lookup_cons, hbeq, hbeq', ih hnodup.2 hrest]

-- The value of each variable for a column.
def columnValue (columns values : List String) (identifier : String) : String :=
  (((columns.map Identifier.camel).zip values).lookup identifier).getD ""

def HasBrace (text : List Char) : Prop := '\x7b' ∈ text ∨ '\x7d' ∈ text

instance : DecidablePred HasBrace := fun _ => inferInstanceAs (Decidable (_ ∨ _))

theorem doubled_of_not_hasBrace {text : List Char} (h : ¬HasBrace text) : doubled text = text := by
  have hchars : ∀ c ∈ text, (if c == '\x7b' || c == '\x7d' then [c, c] else [c]) = [c] := by
    intro c hc
    rw [if_neg]
    intro hbrace
    rw [Bool.or_eq_true, beq_iff_eq, beq_iff_eq] at hbrace
    rcases hbrace with rfl | rfl
    · exact h (.inl hc)
    · exact h (.inr hc)
  rw [doubled, List.flatMap_congr hchars]
  simp

-- A name that stands for no column, as it is written and with its braces doubled.
structure IsForeign (columns : List String) (name : List Char) : Prop where
  written : trimmed (String.ofList name) ∉ columns
  doubled : trimmed (String.ofList (doubled name)) ∉ columns

section Columns

variable {columns values : List String}
  (htrimmed : ∀ column ∈ columns, trimmed column = column)
  (hnodup : (columns.map Identifier.camel).Nodup)
  (hlength : values.length = columns.length)
include htrimmed hnodup hlength

theorem map_lookup_entries (key : String) :
    ((placeholders columns).entries.lookup key).map (columnValue columns values) =
      (columns.zip values).lookup key := by
  rw [entries_placeholders htrimmed (hnodup.of_map _), lookup_map_pair]
  by_cases hkey : key ∈ columns
  · obtain ⟨value, hvalue⟩ := exists_lookup_zip hlength hkey
    rw [if_pos hkey, Option.map_some, columnValue, lookup_zip_map hnodup hkey, hvalue]
    rfl
  · rw [if_neg hkey, lookup_zip_eq_none hkey]
    rfl

-- A name is looked up with its braces doubled. That comes to the same unless it has braces and is
-- a column, doubled or not.
theorem slotValue?_placeholders {name : List Char} (hplain : HasBrace name → IsForeign columns name) :
    slotValue? (placeholders columns) (columnValue columns values) name =
      rowValue? columns values name := by
  have hlookup := map_lookup_entries htrimmed hnodup hlength
  have hrow : (columns.zip values).lookup (trimmed (String.ofList (doubled name))) =
      (columns.zip values).lookup (trimmed (String.ofList name)) := by
    by_cases hname : HasBrace name
    · have hforeign := hplain hname
      rw [lookup_zip_eq_none hforeign.written, lookup_zip_eq_none hforeign.doubled]
    · rw [doubled_of_not_hasBrace hname]
  calc slotValue? (placeholders columns) (columnValue columns values) name
      = (((placeholders columns).entries.lookup (trimmed (String.ofList (doubled name)))).map
          (columnValue columns values)).map String.toList := by
        rw [Option.map_map]
        rfl
    _ = ((columns.zip values).lookup (trimmed (String.ofList name))).map String.toList := by
        rw [hlookup, hrow]
    _ = rowValue? columns values name := by
        rw [rowValue?, trimmed, String.toList_ofList]

-- A text reads as it should unless it uses such a name.
theorem replaced_placeholders {text : List Char}
    (hplain : ∀ name, .slot name ∈ pieces text → HasBrace name → IsForeign columns name) :
    replaced (slotValue? (placeholders columns) (columnValue columns values)) text =
      replaced (rowValue? columns values) text :=
  replaced_congr fun name hname =>
    slotValue?_placeholders htrimmed hnodup hlength (hplain name hname)

end Columns

end TestClass

end Rehearsal
