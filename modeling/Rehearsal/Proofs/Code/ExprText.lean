import Rehearsal.Proofs.Code.Rendering
import Rehearsal.Proofs.Log.Result

namespace Rehearsal.Code

-- What a name is made of. Beyond ASCII only blanks are left out.
def isNameChar (c : Char) : Bool :=
  if c.toNat < 128 then c.isAlphanum || c == '_' else !Text.isBlank c

-- Every identifier of the target language is one.
structure IsIdentifier (name : String) : Prop where
  head : ∃ c ∈ name.toList.head?, c.isDigit = false
  chars : ∀ c ∈ name.toList, isNameChar c

instance (name : String) : Decidable (IsIdentifier name) :=
  decidable_of_iff (name.toList.head?.any (fun c => !c.isDigit) ∧ name.toList.all isNameChar)
    ⟨fun h => ⟨by simpa [Option.any_eq_true] using h.1, List.all_eq_true.mp h.2⟩,
      fun h => ⟨by simpa [Option.any_eq_true] using h.head, List.all_eq_true.mpr h.chars⟩⟩

-- A text that starts with something to see.
def Opens (text : String) : Prop := ∃ c ∈ text.toList.head?, Text.isBlank c = false

-- A text that is not empty and does not end like a heading.
def Ends (text : String) : Prop := ∃ c ∈ text.toList.getLast?, c ≠ ':'

theorem Opens.append {text : String} (h : Opens text) (more : String) : Opens (text ++ more) := by
  obtain ⟨c, hc, hblank⟩ := h
  refine ⟨c, ?_, hblank⟩
  rw [String.toList_append, List.head?_append, Option.mem_def.mp hc]
  rfl

theorem Opens.ne_empty {text : String} (h : Opens text) : text ≠ "" := by
  rintro rfl
  simp [Opens] at h

theorem Ends.append {text : String} (h : Ends text) (front : String) : Ends (front ++ text) := by
  obtain ⟨c, hc, hcolon⟩ := h
  refine ⟨c, ?_, hcolon⟩
  rw [String.toList_append, List.getLast?_append, Option.mem_def.mp hc]
  rfl

theorem toNat_of_isAlphanum {c : Char} (h : c.isAlphanum) : 48 ≤ c.toNat ∧ c.toNat < 128 := by
  unfold Char.isAlphanum Char.isAlpha Char.isUpper Char.isLower Char.isDigit at h
  simp only [Bool.or_eq_true, Bool.and_eq_true, decide_eq_true_eq, ge_iff_le,
    UInt32.le_iff_toNat_le] at h
  have hval : c.val.toNat = c.toNat := rfl
  have hupper : 'A'.val.toNat = 65 := rfl
  have hlower : 'a'.val.toNat = 97 := rfl
  have hzero : '0'.val.toNat = 48 := rfl
  have hupper' : 'Z'.val.toNat = 90 := rfl
  have hlower' : 'z'.val.toNat = 122 := rfl
  have hnine : '9'.val.toNat = 57 := rfl
  omega

theorem isBlank_of_isNameChar {c : Char} (h : isNameChar c) : Text.isBlank c = false := by
  unfold isNameChar at h
  split_ifs at h with hascii
  · have hlarge : 48 ≤ c.toNat := by
      obtain halnum | hline := Bool.or_eq_true_iff.mp h
      · exact (toNat_of_isAlphanum halnum).1
      · rw [eq_of_beq hline]
        decide
    simp only [Text.isBlank, Text.blankRanges, Text.Ranges.has, List.any_cons, List.any_nil]
    simp only [Bool.or_false, Bool.or_eq_false_iff, Bool.and_eq_false_iff, decide_eq_false_iff_not]
    omega
  · simpa using h

theorem ne_of_isNameChar {c other : Char} (h : isNameChar c) (hother : isNameChar other = false) :
    c ≠ other := by
  rintro rfl
  simp [h] at hother

theorem IsIdentifier.opens {name : String} (h : IsIdentifier name) : Opens name := by
  obtain ⟨c, hc, -⟩ := h.head
  exact ⟨c, hc, isBlank_of_isNameChar (h.chars c (List.mem_of_mem_head? hc))⟩

theorem IsIdentifier.ends {name : String} (h : IsIdentifier name) : Ends name := by
  obtain ⟨c, hc, -⟩ := h.head
  have hne : name.toList ≠ [] := List.ne_nil_of_mem (List.mem_of_mem_head? hc)
  refine ⟨name.toList.getLast hne, List.getLast?_eq_getLast_of_ne_nil hne, ?_⟩
  exact ne_of_isNameChar (h.chars _ (List.getLast_mem hne)) (by decide)

-- The underscore that sets a name apart from a reserved word changes neither end for the worse.
theorem IsIdentifier.opens_safeName {name : String} (h : IsIdentifier name) :
    Opens (safeName name) := by
  unfold safeName
  split_ifs
  · exact h.opens.append "_"
  · exact h.opens

theorem IsIdentifier.ends_safeName {name : String} (h : IsIdentifier name) :
    Ends (safeName name) := by
  unfold safeName
  split_ifs
  · exact Ends.append ⟨'_', rfl, by decide⟩ name
  · exact h.ends

theorem opens_typeRender {type : TypeRef} (h : IsIdentifier type.name) : Opens type.render := by
  unfold TypeRef.render
  split_ifs
  · exact ⟨'l', rfl, by decide⟩
  · exact ⟨'s', rfl, by decide⟩
  · exact h.opens

theorem ends_typeRender {type : TypeRef} (h : IsIdentifier type.name) : Ends type.render := by
  unfold TypeRef.render
  split_ifs
  · exact ⟨'t', rfl, by decide⟩
  · exact ⟨'r', rfl, by decide⟩
  · exact h.ends

theorem opens_literal (text : String) : Opens (Rehearsal.literal text) := by
  refine ⟨Text.quoteMark text.toList, by simp [Rehearsal.literal, Text.quoted], ?_⟩
  unfold Text.quoteMark
  split <;> decide

theorem ends_literal (text : String) : Ends (Rehearsal.literal text) := by
  refine ⟨Text.quoteMark text.toList, ?_, ?_⟩
  · rw [Rehearsal.literal, String.toList_ofList, Text.quoted, ← List.cons_append,
      List.getLast?_concat]
    rfl
  · unfold Text.quoteMark
    split <;> decide

theorem isNameChar_of_isDigit {c : Char} (h : c.isDigit) : isNameChar c := by
  have halnum : c.isAlphanum := by rw [Char.isAlphanum, h, Bool.or_true]
  rw [isNameChar, if_pos (toNat_of_isAlphanum halnum).2, halnum, Bool.true_or]

theorem isDigit_of_mem_repr {n : Nat} {c : Char} (h : c ∈ (Nat.repr n).toList) : c.isDigit := by
  rw [Nat.toList_repr] at h
  exact Nat.isDigit_of_mem_toDigits (by decide) (by decide) h

theorem repr_ne_nil (n : Nat) : (Nat.repr n).toList ≠ [] := by
  rw [Nat.toList_repr]
  exact Nat.toDigits_ne_nil

theorem opens_repr (n : Nat) : Opens (Nat.repr n) := by
  refine ⟨(Nat.repr n).toList.head (repr_ne_nil n), List.head?_eq_some_head _, ?_⟩
  exact isBlank_of_isNameChar (isNameChar_of_isDigit (isDigit_of_mem_repr (List.head_mem _)))

theorem ends_repr (n : Nat) : Ends (Nat.repr n) := by
  refine ⟨(Nat.repr n).toList.getLast (repr_ne_nil n), List.getLast?_eq_getLast_of_ne_nil _, ?_⟩
  have hdigit := isDigit_of_mem_repr (List.getLast_mem (repr_ne_nil n))
  exact ne_of_isNameChar (isNameChar_of_isDigit hdigit) (by decide)

theorem Literal.opens_ends {value : Literal} {text : String} (h : value.render = .ok text) :
    Opens text ∧ Ends text := by
  match value with
  | .null =>
      obtain rfl := Except.ok.inj h
      exact ⟨⟨'N', rfl, by decide⟩, ⟨'e', rfl, by decide⟩⟩
  | .bool true =>
      obtain rfl := Except.ok.inj h
      exact ⟨⟨'T', rfl, by decide⟩, ⟨'e', rfl, by decide⟩⟩
  | .bool false =>
      obtain rfl := Except.ok.inj h
      exact ⟨⟨'F', rfl, by decide⟩, ⟨'e', rfl, by decide⟩⟩
  | .text value =>
      obtain rfl := Except.ok.inj h
      exact ⟨opens_literal value, ends_literal value⟩
  | .int n =>
      unfold Literal.render Numeral.write? at h
      dsimp only at h
      split_ifs at h
      · obtain rfl := Except.ok.inj h
        exact ⟨Opens.append ⟨'-', rfl, by decide⟩ _, (ends_repr _).append "-"⟩
      · obtain rfl := Except.ok.inj h
        exact ⟨opens_repr _, ends_repr _⟩

def typeNames (type : Slot TypeRef) : List String := type.value?.toList.map (·.name)

mutual

-- The names that are written out.
def Expr.names : Expr → List String
  | .literal _ | .this | .foreign _ => []
  | .var name => [name]
  | .typeName type => typeNames type
  | .field target name => target.names ++ [name]
  | .call target method arguments => target.names ++ method :: Expr.allNames arguments
  | .create type arguments => typeNames type ++ Expr.allNames arguments
  | .array _ items => Expr.allNames items
  | .cast _ inner => inner.names
  | .binary left _ right => left.names ++ right.names
  | .format _ arguments => Expr.allNames arguments
  | .concat left right => left.names ++ right.names

def Expr.allNames : List Expr → List String
  | [] => []
  | e :: rest => e.names ++ Expr.allNames rest

end

theorem renderType_opens_ends {type : Slot TypeRef} {text : String}
    (hnames : ∀ name ∈ typeNames type, IsIdentifier name) (h : renderType type = .ok text) :
    Opens text ∧ Ends text := by
  cases type with
  | of type =>
      have hname : IsIdentifier type.name := hnames type.name (by simp [typeNames, Slot.value?])
      obtain rfl := Except.ok.inj h
      exact ⟨opens_typeRender hname, ends_typeRender hname⟩
  | foreign thing => cases h

theorem Opens.operand {e : Expr} {text : String} (h : Opens text) : Opens (operand e text) := by
  unfold Code.operand
  split_ifs
  · exact Opens.append (Opens.append ⟨'(', rfl, by decide⟩ text) ")"
  · exact h

theorem Ends.operand {e : Expr} {text : String} (h : Ends text) : Ends (operand e text) := by
  unfold Code.operand
  split_ifs
  · exact Ends.append ⟨')', rfl, by decide⟩ _
  · exact h

theorem ends_paren (front : String) : Ends (front ++ ")") := Ends.append ⟨')', rfl, by decide⟩ front

-- No expression starts with a blank or ends like a heading.
theorem Expr.opens_ends : (e : Expr) → (∀ name ∈ e.names, IsIdentifier name) → (text : String) →
    e.render = .ok text → Opens text ∧ Ends text
  | .literal value, _, _, h => Literal.opens_ends h
  | .var name, hnames, text, h => by
      obtain rfl := Except.ok.inj h
      have hname := hnames name (by simp [Expr.names])
      exact ⟨hname.opens_safeName, hname.ends_safeName⟩
  | .this, _, _, h => by
      obtain rfl := Except.ok.inj h
      exact ⟨⟨'s', rfl, by decide⟩, ⟨'f', rfl, by decide⟩⟩
  | .typeName type, hnames, _, h => renderType_opens_ends hnames h
  | .field target name, hnames, _, h => by
      simp only [Expr.names, List.forall_mem_append] at hnames
      obtain ⟨front, hfront, hrest⟩ := Result.bind_eq_ok.mp h
      obtain rfl := Except.ok.inj hrest
      have hname := hnames.2 name (by simp)
      exact ⟨((target.opens_ends hnames.1 front hfront).1.append ".").append _,
        hname.ends_safeName.append _⟩
  | .call target method arguments, hnames, _, h => by
      simp only [Expr.names, List.forall_mem_append] at hnames
      obtain ⟨front, hfront, hrest⟩ := Result.bind_eq_ok.mp h
      obtain ⟨given, -, hrest⟩ := Result.bind_eq_ok.mp hrest
      obtain rfl := Except.ok.inj hrest
      have hopens := (target.opens_ends hnames.1 front hfront).1
      exact ⟨((((hopens.append ".").append _).append "(").append _).append ")", ends_paren _⟩
  | .create type arguments, hnames, _, h => by
      simp only [Expr.names, List.forall_mem_append] at hnames
      obtain ⟨front, hfront, hrest⟩ := Result.bind_eq_ok.mp h
      obtain ⟨given, -, hrest⟩ := Result.bind_eq_ok.mp hrest
      obtain rfl := Except.ok.inj hrest
      have hopens := (renderType_opens_ends hnames.1 hfront).1
      exact ⟨((hopens.append "(").append _).append ")", ends_paren _⟩
  | .array _ items, _, _, h => by
      obtain ⟨given, -, hrest⟩ := Result.bind_eq_ok.mp h
      obtain rfl := Except.ok.inj hrest
      exact ⟨(Opens.append ⟨'[', rfl, by decide⟩ _).append "]",
        Ends.append ⟨']', rfl, by decide⟩ _⟩
  | .cast _ inner, hnames, text, h => inner.opens_ends hnames text h
  | .binary left operator right, hnames, _, h => by
      simp only [Expr.names, List.forall_mem_append] at hnames
      obtain ⟨first, hfirst, hrest⟩ := Result.bind_eq_ok.mp h
      obtain ⟨second, hsecond, hrest⟩ := Result.bind_eq_ok.mp hrest
      obtain rfl := Except.ok.inj hrest
      have hopens := (left.opens_ends hnames.1 first hfirst).1
      have hends := (right.opens_ends hnames.2 second hsecond).2
      exact ⟨(((hopens.operand.append " ").append _).append " ").append _, hends.operand.append _⟩
  | .format template arguments, _, _, h => by
      obtain ⟨given, -, hrest⟩ := Result.bind_eq_ok.mp h
      obtain rfl := Except.ok.inj hrest
      exact ⟨(((opens_literal template).append ".format(").append _).append ")", ends_paren _⟩
  | .concat left right, _, _, h => by
      obtain ⟨first, -, hrest⟩ := Result.bind_eq_ok.mp h
      obtain ⟨second, -, hrest⟩ := Result.bind_eq_ok.mp hrest
      obtain rfl := Except.ok.inj hrest
      have hopens : Opens "list(" := ⟨'l', rfl, by decide⟩
      exact ⟨(((hopens.append _).append ") + list(").append _).append ")", ends_paren _⟩

end Rehearsal.Code
