import Rehearsal.Code.Build
import Rehearsal.Code.Render

namespace Rehearsal.Code

def Literal.isRenderable : Literal → Bool
  | .int n => (Numeral.write? n).isSome
  | _ => true

mutual

-- Nothing foreign stands where it would have to be written, and no number is too long.
def Expr.isRenderable : Expr → Bool
  | .literal value => value.isRenderable
  | .var _ | .this => true
  | .typeName type => type.value?.isSome
  | .field target _ => target.isRenderable
  | .call target _ arguments => target.isRenderable && Expr.areRenderable arguments
  | .create type arguments => type.value?.isSome && Expr.areRenderable arguments
  | .array _ items => Expr.areRenderable items
  | .cast _ inner => inner.isRenderable
  | .binary left _ right => left.isRenderable && right.isRenderable
  | .format _ arguments => Expr.areRenderable arguments
  | .concat left right => left.isRenderable && right.isRenderable
  | .foreign _ => false

def Expr.areRenderable : List Expr → Bool
  | [] => true
  | e :: rest => e.isRenderable && Expr.areRenderable rest

end

mutual

def Stmt.isRenderable : Stmt → Bool
  | .eval value => value.isRenderable
  | .declare _ _ init => init.all Expr.isRenderable
  | .assign left right => left.isRenderable && right.isRenderable
  | .loop init test increment body =>
      init.isRenderable && test.isRenderable && increment.isRenderable && Stmt.areRenderable body
  | .guarded body handlers => Stmt.areRenderable body && Handler.areRenderable handlers
  | .branch condition yes no =>
      condition.isRenderable && Stmt.areRenderable yes && Stmt.areRenderable no
  | .leave value => value.all Expr.isRenderable
  | .throw value => value.all Expr.isRenderable
  | .foreign _ => false

def Stmt.areRenderable : List Stmt → Bool
  | [] => true
  | s :: rest => s.isRenderable && Stmt.areRenderable rest

def Handler.isRenderable : Handler → Bool
  | .mk _ type body => type.value?.isSome && Stmt.areRenderable body
  | .foreign _ => false

def Handler.areRenderable : List Handler → Bool
  | [] => true
  | h :: rest => h.isRenderable && Handler.areRenderable rest

end

theorem Expr.areRenderable_iff {es : List Expr} :
    Expr.areRenderable es ↔ ∀ e ∈ es, e.isRenderable := by
  induction es with
  | nil => simp [Expr.areRenderable]
  | cons e rest ih => simp [Expr.areRenderable, ih]

theorem Stmt.areRenderable_append (front back : List Stmt) :
    Stmt.areRenderable (front ++ back) =
      (Stmt.areRenderable front && Stmt.areRenderable back) := by
  induction front with
  | nil => rfl
  | cons s rest ih => simp [Stmt.areRenderable, ih, Bool.and_assoc]

theorem Stmt.areRenderable_iff {ss : List Stmt} :
    Stmt.areRenderable ss ↔ ∀ s ∈ ss, s.isRenderable := by
  induction ss with
  | nil => simp [Stmt.areRenderable]
  | cons s rest ih => simp [Stmt.areRenderable, ih]

-- A computation that comes to a result.
def Succeeds {ε α : Type} (x : Except ε α) : Prop := ∃ a, x = .ok a

namespace Succeeds

variable {ε α β : Type}

theorem ok (a : α) : Succeeds (.ok a : Except ε α) := ⟨a, rfl⟩

theorem bind {x : Except ε α} {f : α → Except ε β} (hx : Succeeds x) (hf : ∀ a, Succeeds (f a)) :
    Succeeds (x >>= f) := by
  obtain ⟨a, rfl⟩ := hx
  exact hf a

theorem mapM {f : α → Except ε β} {as : List α} (h : ∀ a ∈ as, Succeeds (f a)) :
    Succeeds (as.mapM f) := by
  induction as with
  | nil => exact .ok []
  | cons a rest ih =>
      rw [List.mapM_cons]
      exact (h a (by simp)).bind fun _ =>
        (ih fun other hother => h other (List.mem_cons_of_mem a hother)).bind fun _ => .ok _

end Succeeds

theorem renderType_succeeds {type : Slot TypeRef} (h : type.value?.isSome) :
    Succeeds (renderType type) := by
  cases type with
  | of type => exact .ok _
  | foreign thing => cases h

theorem Literal.render_succeeds {value : Literal} (h : value.isRenderable) :
    Succeeds value.render := by
  match value with
  | .null | .bool true | .bool false | .text _ => exact .ok _
  | .int n =>
      obtain ⟨digits, hdigits⟩ := Option.isSome_iff_exists.mp h
      exact ⟨digits, by simp [Literal.render, hdigits]⟩

mutual

theorem Expr.render_succeeds : (e : Expr) → e.isRenderable → Succeeds e.render
  | .literal _, h => Literal.render_succeeds h
  | .var _, _ => .ok _
  | .this, _ => .ok _
  | .typeName _, h => renderType_succeeds h
  | .field target _, h => (target.render_succeeds h).bind fun _ => .ok _
  | .call target _ arguments, h =>
      have h := Bool.and_eq_true_iff.mp h
      (target.render_succeeds h.1).bind fun _ =>
        (Expr.renderAll_succeeds arguments h.2).bind fun _ => .ok _
  | .create _ arguments, h =>
      have h := Bool.and_eq_true_iff.mp h
      (renderType_succeeds h.1).bind fun _ =>
        (Expr.renderAll_succeeds arguments h.2).bind fun _ => .ok _
  | .array _ items, h => (Expr.renderAll_succeeds items h).bind fun _ => .ok _
  | .cast _ inner, h => inner.render_succeeds h
  | .binary left _ right, h =>
      have h := Bool.and_eq_true_iff.mp h
      (left.render_succeeds h.1).bind fun _ => (right.render_succeeds h.2).bind fun _ => .ok _
  | .format _ arguments, h => (Expr.renderAll_succeeds arguments h).bind fun _ => .ok _
  | .concat left right, h =>
      have h := Bool.and_eq_true_iff.mp h
      (left.render_succeeds h.1).bind fun _ => (right.render_succeeds h.2).bind fun _ => .ok _

theorem Expr.renderAll_succeeds :
    (es : List Expr) → Expr.areRenderable es → Succeeds (Expr.renderAll es)
  | [], _ => .ok _
  | e :: rest, h =>
      have h := Bool.and_eq_true_iff.mp h
      (e.render_succeeds h.1).bind fun _ => (Expr.renderAll_succeeds rest h.2).bind fun _ => .ok _

end

theorem renderInit_succeeds {init : Option Expr} (h : init.all Expr.isRenderable) :
    Succeeds (renderInit init) := by
  cases init with
  | none => exact .ok _
  | some e => exact e.render_succeeds h

mutual

theorem Stmt.render_succeeds (unit : String) :
    (s : Stmt) → s.isRenderable → Succeeds (s.render unit)
  | .eval value, h => (value.render_succeeds h).bind fun _ => .ok _
  | .declare _ _ _, h => (renderInit_succeeds h).bind fun _ => .ok _
  | .assign left right, h =>
      have h := Bool.and_eq_true_iff.mp h
      (left.render_succeeds h.1).bind fun _ => (right.render_succeeds h.2).bind fun _ => .ok _
  | .loop init test increment body, h => by
      simp only [Stmt.isRenderable, Bool.and_eq_true] at h
      obtain ⟨⟨⟨hinit, htest⟩, hincrement⟩, hbody⟩ := h
      exact (Stmt.renderAll_succeeds unit body hbody).bind fun _ =>
        (Stmt.render_succeeds unit increment hincrement).bind fun _ =>
        (Stmt.render_succeeds unit init hinit).bind fun _ =>
        (test.render_succeeds htest).bind fun _ => .ok _
  | .guarded body handlers, h =>
      have h := Bool.and_eq_true_iff.mp h
      (Stmt.renderAll_succeeds unit body h.1).bind fun _ =>
        (Handler.renderAll_succeeds unit handlers h.2).bind fun _ => .ok _
  | .branch condition yes no, h => by
      simp only [Stmt.isRenderable, Bool.and_eq_true] at h
      obtain ⟨⟨hcondition, hyes⟩, hno⟩ := h
      exact (condition.render_succeeds hcondition).bind fun _ =>
        (Stmt.renderAll_succeeds unit yes hyes).bind fun _ =>
        (Stmt.renderAll_succeeds unit no hno).bind fun _ => .ok _
  | .leave none, _ => .ok _
  | .leave (some value), h => (value.render_succeeds h).bind fun _ => .ok _
  | .throw none, _ => .ok _
  | .throw (some value), h => (value.render_succeeds h).bind fun _ => .ok _

theorem Stmt.renderAll_succeeds (unit : String) :
    (ss : List Stmt) → Stmt.areRenderable ss → Succeeds (Stmt.renderAll unit ss)
  | [], _ => .ok _
  | s :: rest, h =>
      have h := Bool.and_eq_true_iff.mp h
      (Stmt.render_succeeds unit s h.1).bind fun _ =>
        (Stmt.renderAll_succeeds unit rest h.2).bind fun _ => .ok _

theorem Handler.render_succeeds (unit : String) :
    (handler : Handler) → handler.isRenderable → Succeeds (handler.render unit)
  | .mk _ _ body, h =>
      have h := Bool.and_eq_true_iff.mp h
      (renderType_succeeds h.1).bind fun _ =>
        (Stmt.renderAll_succeeds unit body h.2).bind fun _ => .ok _

theorem Handler.renderAll_succeeds (unit : String) :
    (handlers : List Handler) → Handler.areRenderable handlers →
      Succeeds (Handler.renderAll unit handlers)
  | [], _ => .ok _
  | handler :: rest, h =>
      have h := Bool.and_eq_true_iff.mp h
      (Handler.render_succeeds unit handler h.1).bind fun _ =>
        (Handler.renderAll_succeeds unit rest h.2).bind fun _ => .ok _

end

def Attribute.IsRenderable (slot : Slot Attribute) : Prop :=
  ∃ a, slot = .of a ∧ Expr.areRenderable a.arguments

structure Method.IsRenderable (m : Method) : Prop where
  attributes : ∀ slot ∈ m.attributes, Attribute.IsRenderable slot
  parameters : ∀ slot ∈ m.parameters, ∃ p, slot = .of p
  statements : Stmt.areRenderable m.statements

def Member.IsRenderable : Member → Prop
  | .field f => f.init.all Expr.isRenderable
  | .method m => m.IsRenderable
  | .foreign .. => False

structure ClassDecl.IsRenderable (c : ClassDecl) : Prop where
  attributes : ∀ slot ∈ c.attributes, Attribute.IsRenderable slot
  bases : ∀ slot ∈ c.bases, slot.value?.isSome
  members : ∀ member ∈ c.members, member.IsRenderable

theorem renderAttribute_succeeds {slot : Slot Attribute} (h : Attribute.IsRenderable slot) :
    Succeeds (renderAttribute slot) := by
  obtain ⟨a, rfl, ha⟩ := h
  refine (Expr.renderAll_succeeds a.arguments ha).bind fun texts => ?_
  split <;> exact .ok _

theorem Method.render_succeeds {m : Method} (h : m.IsRenderable) (unit : String) :
    Succeeds (m.render unit) := by
  have hparameters : Succeeds (m.parameters.mapM renderParameter) := by
    apply Succeeds.mapM
    intro slot hslot
    obtain ⟨p, rfl⟩ := h.parameters slot hslot
    exact .ok _
  exact (Succeeds.mapM fun slot hslot => renderAttribute_succeeds (h.attributes slot hslot)).bind
    fun _ => hparameters.bind fun _ =>
      (Stmt.renderAll_succeeds unit m.statements h.statements).bind fun _ => .ok _

theorem Member.render_succeeds {member : Member} (h : member.IsRenderable) (unit : String) :
    Succeeds (member.render unit) := by
  cases member with
  | field f => exact (renderInit_succeeds h).bind fun _ => .ok _
  | method m => exact m.render_succeeds h unit
  | foreign => exact h.elim

theorem bodyLines_succeeds {members : List Member} (h : ∀ member ∈ members, member.IsRenderable)
    (unit : String) (before : List String) : Succeeds (bodyLines unit before members) := by
  induction members generalizing before with
  | nil => exact .ok before
  | cons member rest ih =>
      exact (member.render_succeeds (h member (by simp)) unit).bind fun _ =>
        ih (fun other hother => h other (List.mem_cons_of_mem member hother)) _

theorem ClassDecl.render_succeeds {c : ClassDecl} (h : c.IsRenderable) (unit : String) :
    Succeeds (c.render unit) :=
  (Succeeds.mapM fun slot hslot => renderAttribute_succeeds (h.attributes slot hslot)).bind
    fun _ => (Succeeds.mapM fun slot hslot => renderType_succeeds (h.bases slot hslot)).bind
    fun _ => (bodyLines_succeeds h.members unit _).bind fun _ => .ok _

-- A module of renderable classes has a source text.
theorem ModuleDecl.render_succeeds {m : ModuleDecl}
    (himports : ∀ slot ∈ m.imports, ∃ i, slot = .of i) (hclasses : ∀ c ∈ m.classes, c.IsRenderable)
    (unit : String) : Succeeds (m.render unit) := by
  have himports : Succeeds (m.imports.mapM renderImport) := by
    apply Succeeds.mapM
    intro slot hslot
    obtain ⟨i, rfl⟩ := himports slot hslot
    exact .ok _
  exact himports.bind fun _ =>
    (Succeeds.mapM fun c hc => ClassDecl.render_succeeds (hclasses c hc) unit).bind fun _ => .ok _

end Rehearsal.Code
