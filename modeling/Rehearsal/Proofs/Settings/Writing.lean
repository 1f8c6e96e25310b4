import Rehearsal.Proofs.Log.Result
import Rehearsal.Proofs.Settings.Fields

namespace Rehearsal

namespace Scalar

-- A number that is too long, or a scalar of another kind that has no text.
inductive IsUnwritable (text? : Atom → Option String) : Scalar → Prop where
  | int {value : Int} (long : Numeral.maxDigits < (Nat.repr value.natAbs).length) :
      IsUnwritable text? (.int value)
  | atom {value : Atom} (unknown : text? value = none) : IsUnwritable text? (.atom value)

variable {text? : Atom → Option String}

theorem isUnwritable_int {value : Int} :
    IsUnwritable text? (.int value) ↔ Numeral.write? value = none := by
  have hwrite : Numeral.write? value = none ↔
      Numeral.maxDigits < (Nat.repr value.natAbs).length := by
    unfold Numeral.write?
    dsimp only
    split_ifs with hshort
    · simpa using hshort
    · simpa using hshort
  rw [hwrite]
  constructor
  · intro h
    cases h with
    | int long => exact long
  · exact .int

theorem isUnwritable_atom {value : Atom} :
    IsUnwritable text? (.atom value) ↔ text? value = none := by
  constructor
  · intro h
    cases h with
    | atom unknown => exact unknown
  · exact .atom

theorem written?_eq_none_iff {value : Scalar} :
    value.written? = none ↔ value.IsUnwritable Atom.written? := by
  cases value with
  | null => exact iff_of_false (by simp [written?]) fun h => by cases h
  | bool value =>
      refine iff_of_false ?_ fun h => by cases h
      cases value <;> simp [written?]
  | int value => rw [written?, isUnwritable_int]
  | text value => exact iff_of_false (by simp [written?]) fun h => by cases h
  | atom value => rw [written?, isUnwritable_atom]

theorem plain?_eq_none_iff {value : Scalar} :
    value.plain? = none ↔ value.IsUnwritable Atom.plain? := by
  cases value with
  | null => exact iff_of_false (by simp [plain?, written?]) fun h => by cases h
  | bool value =>
      refine iff_of_false ?_ fun h => by cases h
      cases value <;> simp [plain?, written?]
  | int value => rw [isUnwritable_int]; rfl
  | text value => exact iff_of_false (by simp [plain?]) fun h => by cases h
  | atom value => rw [isUnwritable_atom]; rfl

end Scalar

namespace Memory

variable {memory : Memory}

-- What keeps a value from being written inside another one. A value that stands inside itself is
-- cut short there, and nothing in it counts.
inductive Stops (memory : Memory) : Data.Fault → Nat → List Nat → Data → Prop where
  | depth (around : List Nat) (value : Data) : Stops memory .depth 0 around value
  | scalar {depth : Nat} {around : List Nat} {value : Data} {content : Scalar}
      (closed : isOpen around value = false) (isScalar : memory.look value = .scalar content)
      (unwritable : content.IsUnwritable Atom.written?) :
      Stops memory .number (depth + 1) around value
  | key {depth : Nat} {around : List Nat} {value : Data} {fields : Fields} {field : Scalar × Data}
      (closed : isOpen around value = false) (isMap : memory.look value = .map fields)
      (mem : field ∈ fields) (unwritable : field.1.IsUnwritable Atom.written?) :
      Stops memory .number (depth + 1) around value
  | part {fault : Data.Fault} {depth : Nat} {around : List Nat} {value part : Data}
      (closed : isOpen around value = false) (mem : part ∈ (memory.look value).parts)
      (inner : Stops memory fault depth (entered around value) part) :
      Stops memory fault (depth + 1) around value

theorem orNumber_eq_error {text : Option String} {fault : Data.Fault} :
    orNumber text = .error fault ↔ text = none ∧ fault = .number := by
  cases text with
  | none => simp [orNumber, eq_comm]
  | some text => simp [orNumber]

theorem stops_of_written {fault : Data.Fault} {depth : Nat} {around : List Nat} {value : Data}
    (h : memory.written depth around value = .error fault) :
    memory.Stops fault depth around value := by
  induction depth generalizing around value with
  | zero =>
      cases h
      exact .depth around value
  | succ depth ih =>
      rw [written] at h
      cases hclosed : isOpen around value with
      | true => simp [hclosed] at h
      | false =>
          simp only [hclosed, Bool.false_eq_true, if_false] at h
          split at h
          · next content hcontent =>
            obtain ⟨hnone, rfl⟩ := orNumber_eq_error.mp h
            exact .scalar hclosed hcontent (Scalar.written?_eq_none_iff.mp hnone)
          · next items hitems =>
            obtain hitem | ⟨texts, -, h⟩ := Result.bind_eq_error.mp h
            · obtain ⟨item, hmem, hfault⟩ := Result.exists_of_mapM_eq_error hitem
              exact .part hclosed (hitems ▸ hmem) (ih hfault)
            · cases h
          · next first second hpair =>
            obtain hfirst | ⟨text, -, h⟩ := Result.bind_eq_error.mp h
            · exact .part hclosed (hpair ▸ List.mem_cons_self) (ih hfirst)
            · obtain hsecond | ⟨text, -, h⟩ := Result.bind_eq_error.mp h
              · refine .part hclosed ?_ (ih hsecond)
                rw [hpair]
                exact List.mem_cons_of_mem _ List.mem_cons_self
              · cases h
          · next fields hfields =>
            obtain hfield | ⟨texts, -, h⟩ := Result.bind_eq_error.mp h
            · obtain ⟨field, hmem, hfault⟩ := Result.exists_of_mapM_eq_error hfield
              obtain hkey | ⟨key, -, hfault⟩ := Result.bind_eq_error.mp hfault
              · obtain ⟨hnone, rfl⟩ := orNumber_eq_error.mp hkey
                exact .key hclosed hfields hmem (Scalar.written?_eq_none_iff.mp hnone)
              · obtain hvalue | ⟨text, -, hfault⟩ := Result.bind_eq_error.mp hfault
                · refine .part hclosed ?_ (ih hvalue)
                  rw [hfields]
                  exact List.mem_map_of_mem hmem
                · cases hfault
            · cases h
          · cases h

theorem written_of_stops {fault : Data.Fault} {depth : Nat} {around : List Nat} {value : Data}
    (h : memory.Stops fault depth around value) :
    ∃ fault, memory.written depth around value = .error fault := by
  induction h with
  | depth around value => exact ⟨.depth, rfl⟩
  | scalar closed isScalar unwritable =>
      rw [← Scalar.written?_eq_none_iff] at unwritable
      exact ⟨.number, by simp [written, closed, isScalar, unwritable, orNumber]⟩
  | @key depth around value fields field closed isMap mem unwritable =>
      rw [← Scalar.written?_eq_none_iff] at unwritable
      simp only [written, closed, isMap, Bool.false_eq_true, if_false]
      refine Result.bind_fails (.inl (Result.mapM_fails mem (Result.bind_fails (.inl ?_))))
      exact ⟨.number, orNumber_eq_error.mpr ⟨unwritable, rfl⟩⟩
  | @part fault depth around value part closed mem _ ih =>
      simp only [written, closed, Bool.false_eq_true, if_false]
      cases hlook : memory.look value with
      | scalar content =>
          rw [hlook] at mem
          cases mem
      | shared place =>
          rw [hlook] at mem
          cases mem
      | list items =>
          rw [hlook] at mem
          exact Result.bind_fails (.inl (Result.mapM_fails mem ih))
      | pair first second =>
          rw [hlook] at mem
          obtain rfl | hsecond := List.mem_cons.mp mem
          · exact Result.bind_fails (.inl ih)
          · obtain rfl := List.mem_singleton.mp hsecond
            exact Result.bind_fails (.inr fun _ => Result.bind_fails (.inl ih))
      | map fields =>
          rw [hlook] at mem
          obtain ⟨field, hfield, rfl⟩ := List.mem_map.mp mem
          refine Result.bind_fails (.inl (Result.mapM_fails hfield (Result.bind_fails ?_)))
          exact .inr fun _ => Result.bind_fails (.inl ih)

-- What keeps a value from being a text by itself. A scalar needs no depth.
inductive StopsAlone (memory : Memory) (depth : Nat) (value : Data) : Data.Fault → Prop where
  | scalar {content : Scalar} (isScalar : memory.look value = .scalar content)
      (unwritable : content.IsUnwritable Atom.plain?) : StopsAlone memory depth value .number
  | other {fault : Data.Fault} (notScalar : ∀ content, memory.look value ≠ .scalar content)
      (inner : memory.Stops fault depth [] value) : StopsAlone memory depth value fault

theorem not_stopsAlone_text {fault : Data.Fault} {depth : Nat} {text : String} :
    ¬ memory.StopsAlone depth (.text text) fault := by
  intro h
  cases h with
  | scalar isScalar unwritable =>
      cases isScalar
      cases unwritable
  | other notScalar _ => exact notScalar _ rfl

theorem stopsAlone_of_plain {fault : Data.Fault} {depth : Nat} {value : Data}
    (h : memory.plain depth value = .error fault) : memory.StopsAlone depth value fault := by
  unfold plain at h
  split at h
  · next content hcontent =>
    obtain ⟨hnone, rfl⟩ := orNumber_eq_error.mp h
    exact .scalar hcontent (Scalar.plain?_eq_none_iff.mp hnone)
  · next hother => exact .other hother (stops_of_written h)

theorem plain_of_stopsAlone {fault : Data.Fault} {depth : Nat} {value : Data}
    (h : memory.StopsAlone depth value fault) : ∃ fault, memory.plain depth value = .error fault := by
  unfold plain
  cases h with
  | scalar isScalar unwritable =>
      rw [isScalar]
      exact ⟨.number, orNumber_eq_error.mpr ⟨Scalar.plain?_eq_none_iff.mpr unwritable, rfl⟩⟩
  | other notScalar inner =>
      split
      · next content hcontent => exact absurd hcontent (notScalar content)
      · exact written_of_stops inner

end Memory

end Rehearsal
