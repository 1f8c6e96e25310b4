import Mathlib.Data.List.Nodup
import Rehearsal.Proofs.TestClass.Columns

namespace Rehearsal.Outline

open Code

-- The table after some registrations.
def registered (adds : List (String × String)) : Placeholders :=
  adds.foldl (fun table add => table.add add.1 add.2) {}

-- The first identifier that was registered for a name. Braces in the name count twice, blanks
-- around it do not count.
def firstRegistered? (adds : List (String × String)) (name : List Char) : Option String :=
  (adds.find? fun add => trimmed add.1 = trimmed (String.ofList (doubled name))).map Prod.snd

theorem lookup_add (table : Placeholders) (name identifier key : String) :
    (table.add name identifier).entries.lookup key =
      (table.entries.lookup key).or (if trimmed name = key then some identifier else none) := by
  unfold Placeholders.add
  by_cases hkey : trimmed name = key
  · subst hkey
    cases hfound : table.entries.lookup (trimmed name) with
    | some earlier => simp [hfound]
    | none => simp [hfound, List.lookup_append]
  · have hbeq : (key == trimmed name) = false := by simpa using Ne.symm hkey
    dsimp only
    split
    · simp
    · simp [List.lookup_append, List.lookup_cons, hbeq]

-- Later registrations only count for names that are new.
theorem lookup_foldl_add (adds : List (String × String)) (table : Placeholders) (key : String) :
    (adds.foldl (fun table add => table.add add.1 add.2) table).entries.lookup key =
      (table.entries.lookup key).or ((adds.find? fun add => trimmed add.1 = key).map Prod.snd) := by
  induction adds generalizing table with
  | nil => simp
  | cons add rest ih =>
      rw [List.foldl_cons, ih, lookup_add, Option.or_assoc, List.find?_cons]
      by_cases hkey : trimmed add.1 = key <;> simp [hkey]

theorem slotIdentifier?_registered (adds : List (String × String)) (name : List Char) :
    slotIdentifier? (registered adds) name = firstRegistered? adds name := by
  rw [slotIdentifier?, Placeholders.identifier?, registered, lookup_foldl_add]
  rfl

theorem mem_entries_add {table : Placeholders} {name identifier : String} {entry : String × String}
    (h : entry ∈ (table.add name identifier).entries) :
    entry ∈ table.entries ∨ entry.2 = identifier := by
  unfold Placeholders.add at h
  dsimp only at h
  split at h
  · exact .inl h
  · rw [List.mem_append, List.mem_singleton] at h
    exact h.imp_right fun heq => by rw [heq]

-- A table holds only identifiers that were registered.
theorem mem_entries_foldl_add {adds : List (String × String)} {table : Placeholders}
    {entry : String × String}
    (h : entry ∈ (adds.foldl (fun table add => table.add add.1 add.2) table).entries) :
    entry ∈ table.entries ∨ ∃ add ∈ adds, entry.2 = add.2 := by
  induction adds generalizing table with
  | nil => exact .inl h
  | cons add rest ih =>
      rcases ih h with hadded | ⟨other, hother, hsame⟩
      · rcases mem_entries_add hadded with hold | hnew
        · exact .inl hold
        · exact .inr ⟨add, List.mem_cons_self, hnew⟩
      · exact .inr ⟨other, List.mem_cons_of_mem add hother, hsame⟩

theorem bound_registered {X : Type} {adds : List (String × String)} {s : State X}
    {value : String → String} (h : ∀ add ∈ adds, s.locals add.2 = some (.text (value add.2))) :
    Bound s (registered adds) value := by
  intro entry hentry
  rcases mem_entries_foldl_add hentry with hnone | ⟨add, hadd, hsame⟩
  · cases hnone
  · rw [hsame]
    exact h add hadd

-- The names of the placeholders of a text, from the left. Characters that belong to a placeholder
-- before them are skipped.
def namesFrom : Nat → List Char → List (List Char)
  | _, [] => []
  | skip + 1, _ :: rest => namesFrom skip rest
  | 0, c :: rest =>
      match placeholder? (c :: rest) with
      | some name => name :: namesFrom (name.length + 1) rest
      | none => namesFrom 0 rest

-- The identifiers of the placeholders of a text, as often as they come up.
def uses (adds : List (String × String)) (text : List Char) : List String :=
  (namesFrom 0 text).filterMap (firstRegistered? adds)

def Piece.name? : Piece → Option (List Char)
  | .char _ => none
  | .slot name => some name

theorem namesFrom_eq_pieces (skip : Nat) (text : List Char) :
    namesFrom skip text = (pieces (text.drop skip)).filterMap Piece.name? := by
  induction text generalizing skip with
  | nil => cases skip <;> rfl
  | cons c rest ih =>
      cases skip with
      | succ skip => exact ih skip
      | zero =>
          rw [namesFrom, List.drop_zero]
          cases h : placeholder? (c :: rest) with
          | some name =>
              rw [pieces_placeholder h]
              dsimp only
              rw [ih]
              rfl
          | none =>
              rw [pieces_char h]
              dsimp only
              rw [ih]
              rfl

theorem filterMap_pieces_registered (adds : List (String × String)) (text : List Char) :
    (pieces text).filterMap (pieceIdentifier? (registered adds)) = uses adds text := by
  rw [uses, namesFrom_eq_pieces, List.filterMap_filterMap, List.drop_zero]
  apply List.filterMap_congr
  intro piece _
  cases piece with
  | char c => rfl
  | slot name => exact slotIdentifier?_registered adds name

section Slots

variable {table : Placeholders} {identifiers : List String}

theorem segments?_formatText (text : List Piece) :
    segments? (formatText table identifiers text) =
      some (text.flatMap (·.segments table identifiers)) := by
  rw [segments?, formatText, String.toList_ofList, segmentsFrom_format]

-- Each placeholder that is known is one slot, with the place of its identifier for a number.
theorem numbers_segments (text : List Piece) :
    (text.flatMap (·.segments table identifiers)).filterMap Segment.number? =
      (text.filterMap (pieceIdentifier? table)).map identifiers.idxOf := by
  have hchars : ∀ chars : List Char, (chars.map Segment.char).filterMap Segment.number? = [] := by
    intro chars
    simp [List.filterMap_map, Function.comp_def, Segment.number?]
  induction text with
  | nil => rfl
  | cons piece rest ih =>
      rw [List.flatMap_cons, List.filterMap_append, ih]
      cases piece with
      | char c => rfl
      | slot name =>
          cases hid : pieceIdentifier? table (.slot name) with
          | none =>
              have hpiece : (Piece.slot name).segments table identifiers =
                  ('<' :: name ++ ['>']).map .char := by
                rw [Piece.segments, ← pieceIdentifier?, hid]
              rw [hpiece, hchars, List.filterMap_cons_none hid]
              rfl
          | some identifier =>
              have hpiece : (Piece.slot name).segments table identifiers =
                  [.slot (identifiers.idxOf identifier)] := by
                rw [Piece.segments, ← pieceIdentifier?, hid]
              rw [hpiece, List.filterMap_cons_some hid]
              rfl

end Slots

theorem nodup_eraseDups {α : Type} [DecidableEq α] (items : List α) : items.eraseDups.Nodup := by
  induction hlength : items.length using Nat.strong_induction_on generalizing items with
  | _ n ih =>
      cases items with
      | nil => exact List.nodup_nil
      | cons a rest =>
          have hshort : (rest.filter fun b => !b == a).length < n := by
            have hle := List.length_filter_le (fun b => !b == a) rest
            simp only [List.length_cons] at hlength
            omega
          rw [List.eraseDups_cons, List.nodup_cons]
          refine ⟨?_, ih _ hshort _ rfl⟩
          simp [List.mem_eraseDups]

theorem mem_map_idxOf_iff {α : Type} [DecidableEq α] {used : List α} {n : Nat} :
    n ∈ used.map used.eraseDups.idxOf ↔ n < used.eraseDups.length := by
  rw [List.mem_map]
  constructor
  · rintro ⟨a, ha, rfl⟩
    exact List.idxOf_lt_length_iff.mpr (List.mem_eraseDups.mpr ha)
  · intro hn
    refine ⟨used.eraseDups[n], List.mem_eraseDups.mp (List.getElem_mem hn), ?_⟩
    exact List.Nodup.idxOf_getElem (nodup_eraseDups used) n hn

-- A text with placeholders and the expression for it. Whatever the identifiers stand for, the
-- expression comes to the text in which every placeholder that is registered is replaced. Its
-- format has a slot for each of them and an argument for each identifier, in the order of use.
theorem substituted_registered (adds : List (String × String)) (text : String) :
    (∀ (X : Type) (host : Host X) (s : State X) (value : String → String),
      (∀ add ∈ adds, s.locals add.2 = some (.text (value add.2))) →
      Evaluates host s (substituted (some (registered adds)) (some text))
        (.text (String.ofList (replaced
          (fun name => (firstRegistered? adds name).map fun identifier => (value identifier).toList)
          text.toList)))) ∧
    ((uses adds text.toList = [] ∧
        substituted (some (registered adds)) (some text) = Code.text text) ∨
      ∃ template identifiers segments,
        substituted (some (registered adds)) (some text) =
          .format template (identifiers.map .var) ∧
        segments? template = some segments ∧
        (∀ number, number ∈ segments.filterMap Segment.number? ↔ number < identifiers.length) ∧
        identifiers.Nodup ∧ identifiers = (uses adds text.toList).eraseDups ∧ identifiers ≠ []) := by
  have hvalue : ∀ value : String → String, slotValue? (registered adds) value = fun name =>
      (firstRegistered? adds name).map fun identifier => (value identifier).toList := by
    intro value
    funext name
    rw [slotValue?, slotIdentifier?_registered]
  have harguments : slotArguments (registered adds) (pieces text.toList) =
      (uses adds text.toList).eraseDups := by
    rw [slotArguments, filterMap_pieces_registered]
  refine ⟨?_, ?_⟩
  · intro X host s value hbound
    rw [← hvalue]
    exact evaluates_substituted (bound_registered hbound) (some text)
  · by_cases hused : uses adds text.toList = []
    · rw [hused] at harguments
      exact .inl ⟨hused, by simp [substituted, harguments]⟩
    · have hne : (uses adds text.toList).eraseDups ≠ [] := by
        obtain ⟨first, others, hcons⟩ := List.exists_cons_of_ne_nil hused
        simp [hcons, List.eraseDups_cons]
      have hformat : substituted (some (registered adds)) (some text) =
          .format
            (formatText (registered adds) (uses adds text.toList).eraseDups (pieces text.toList))
            ((uses adds text.toList).eraseDups.map .var) := by
        rw [substituted, harguments]
        split
        · contradiction
        · rfl
      refine .inr ⟨_, _, _, hformat, segments?_formatText _, ?_, nodup_eraseDups _, rfl, hne⟩
      intro number
      rw [numbers_segments, filterMap_pieces_registered]
      exact mem_map_idxOf_iff

-- A name that is registered twice, one with braces, and values that look like slots and
-- placeholders.
def invitationNames : List (String × String) :=
  [(" the guest", "guest"), ("the guest ", "host"), ("\x7b\x7bday\x7d\x7d", "day")]

def invitationValue (identifier : String) : String :=
  if identifier = "guest" then "\x7b1\x7d" else "<the guest>"

def invitationText : String := "\x7b<the guest>\x7d\x7d <\x7bday\x7d><the guest > \x7b0\x7d <day> <>"

def silentHost : Host Unit := { isA := fun _ _ => false, answer := fun _ _ => .ok .null }

def invitationState : State Unit :=
  { locals := fun name => some (.text (invitationValue name)), fields := fun _ => none }

theorem substituted_registered_invitation :
    (∀ add ∈ invitationNames,
      invitationState.locals add.2 = some (.text (invitationValue add.2))) ∧
    uses invitationNames invitationText.toList = ["guest", "day", "guest"] ∧
    Evaluates silentHost invitationState
      (substituted (some (registered invitationNames)) (some invitationText))
      (.text "\x7b\x7b1\x7d\x7d\x7d <the guest>\x7b1\x7d \x7b0\x7d <day> <>") := by
  have hbound : ∀ add ∈ invitationNames,
      invitationState.locals add.2 = some (.text (invitationValue add.2)) := fun _ _ => rfl
  have htext : String.ofList (replaced (fun name =>
      (firstRegistered? invitationNames name).map fun identifier =>
        (invitationValue identifier).toList) invitationText.toList) =
      "\x7b\x7b1\x7d\x7d\x7d <the guest>\x7b1\x7d \x7b0\x7d <day> <>" := by
    decide +kernel
  refine ⟨hbound, by decide +kernel, ?_⟩
  rw [← htext]
  exact (substituted_registered invitationNames invitationText).1 Unit silentHost invitationState
    invitationValue hbound

end Rehearsal.Outline
