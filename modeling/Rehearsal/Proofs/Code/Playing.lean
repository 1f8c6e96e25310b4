import Mathlib.Data.List.Forall2
import Rehearsal.Proofs.Code.Execution

namespace Rehearsal.Code

open Exec

variable {X : Type}

-- Makes calls one after the other, up to the first that throws. Gives how that ends and all calls
-- made, the ones before included.
def Host.play (host : Host X) (before : List (Call X)) :
    List (Call X) → Except X Unit × List (Call X)
  | [] => (.ok (), before)
  | call :: rest =>
      match host.answer before call with
      | .ok _ => host.play (before ++ [call]) rest
      | .error x => (.error x, before ++ [call])

-- A run that consists of the calls.
def Host.played (host : Host X) (calls : List (Call X)) : Except X (Val X) × List (Call X) :=
  let (result, made) := host.play [] calls
  (result.map fun _ => .null, made)

theorem Host.play_append (host : Host X) (before front back : List (Call X)) :
    host.play before (front ++ back) =
      match host.play before front with
      | (.ok _, made) => host.play made back
      | (.error x, made) => (.error x, made) := by
  induction front generalizing before with
  | nil => rfl
  | cons call rest ih =>
      rw [List.cons_append, play, play]
      cases host.answer before call with
      | ok value => exact ih (before ++ [call])
      | error x => rfl

theorem outcome_execAll_append (host : Host X) (handled : Option X) (front back : List Stmt)
    (s : State X) :
    (execAll host handled (front ++ back)).outcome s =
      (andThen (execAll host handled front) (execAll host handled back)).outcome s := by
  induction front generalizing s with
  | nil =>
      rw [List.nil_append, execAll, andThen, outcome_bind, outcome_pure]
  | cons stmt rest ih =>
      rw [List.cons_append, execAll, execAll, andThen, andThen, andThen, outcome_bind, outcome_bind,
        outcome_bind]
      rcases (exec host handled stmt).outcome s with _ | ⟨x | _ | value, t⟩
      · rfl
      · rfl
      · dsimp only
        rw [ih, andThen, outcome_bind]
      · rfl

-- A computation that makes the calls in order. If none of them throws, it goes on, and the
-- condition holds.
def Plays (host : Host X) (m : Exec X (Flow X)) (s : State X) (calls : List (Call X))
    (after : State X → Prop) : Prop :=
  ∃ result t, m.outcome s = some (result, t) ∧
    host.play s.calls calls = (result.map fun _ => (), t.calls) ∧
    ∀ flow, result = .ok flow → flow = .next ∧ after t

namespace Plays

variable {host : Host X} {m first second : Exec X (Flow X)} {s : State X}
  {calls front back : List (Call X)} {after between : State X → Prop}

-- A computation that makes no call.
theorem silent {t : State X} (h : m.outcome s = some (.ok .next, t)) (hcalls : t.calls = s.calls)
    (ht : after t) : Plays host m s [] after := by
  refine ⟨_, t, h, ?_, ?_⟩
  · rw [hcalls]
    rfl
  · rintro flow ⟨⟩
    exact ⟨rfl, ht⟩

theorem mono (h : Plays host m s calls between) (himp : ∀ t, between t → after t) :
    Plays host m s calls after := by
  obtain ⟨result, t, hm, hplay, hnext⟩ := h
  refine ⟨result, t, hm, hplay, fun flow hflow => ?_⟩
  obtain ⟨hflow, ht⟩ := hnext flow hflow
  exact ⟨hflow, himp t ht⟩

theorem andThen (hfirst : Plays host first s front between)
    (hsecond : ∀ t, between t → Plays host second t back after) :
    Plays host (andThen first second) s (front ++ back) after := by
  obtain ⟨result, t, hm, hplay, hnext⟩ := hfirst
  cases result with
  | error x =>
      refine ⟨.error x, t, ?_, ?_, nofun⟩
      · rw [Code.andThen, outcome_bind, hm]
      · rw [Host.play_append, hplay]
        rfl
  | ok flow =>
      obtain ⟨rfl, ht⟩ := hnext flow rfl
      obtain ⟨result, u, hm', hplay', hnext'⟩ := hsecond t ht
      refine ⟨result, u, ?_, ?_, hnext'⟩
      · rw [Code.andThen, outcome_bind, hm]
        exact hm'
      · rw [Host.play_append, hplay]
        exact hplay'

theorem nil (hs : after s) : Plays host (execAll host none []) s [] after := by
  have hexec : (execAll host none []).outcome s = some (.ok .next, s) := by
    rw [execAll]
    rfl
  exact .silent hexec rfl hs

theorem cons {stmt : Stmt} {rest : List Stmt}
    (hfirst : Plays host (exec host none stmt) s front between)
    (hrest : ∀ t, between t → Plays host (execAll host none rest) t back after) :
    Plays host (execAll host none (stmt :: rest)) s (front ++ back) after := by
  rw [execAll]
  exact hfirst.andThen hrest

-- A statement that makes no call comes before the calls of the rest.
theorem cons_silent {stmt : Stmt} {rest : List Stmt}
    (hfirst : Plays host (exec host none stmt) s [] between)
    (hrest : ∀ t, between t → Plays host (execAll host none rest) t calls after) :
    Plays host (execAll host none (stmt :: rest)) s calls after :=
  hfirst.cons hrest

theorem single {stmt : Stmt} (h : Plays host (exec host none stmt) s calls after) :
    Plays host (execAll host none [stmt]) s calls after := by
  rw [← List.append_nil calls]
  exact h.cons fun t ht => .nil ht

-- Statements in a row are run one part after the other.
theorem append {head tail : List Stmt}
    (hfront : Plays host (execAll host none head) s front between)
    (hback : ∀ t, between t → Plays host (execAll host none tail) t back after) :
    Plays host (execAll host none (head ++ tail)) s (front ++ back) after := by
  obtain ⟨result, t, hm, hrest⟩ := hfront.andThen hback
  exact ⟨result, t, (outcome_execAll_append host none head tail s).trans hm, hrest⟩

theorem append_silent {head tail : List Stmt}
    (hhead : Plays host (execAll host none head) s [] between)
    (htail : ∀ t, between t → Plays host (execAll host none tail) t calls after) :
    Plays host (execAll host none (head ++ tail)) s calls after :=
  hhead.append htail

end Plays

-- Two states that differ at most in the calls made.
structure SameVariables (s t : State X) : Prop where
  locals : t.locals = s.locals
  fields : t.fields = s.fields
  created : t.created = s.created

theorem SameVariables.trans {s t u : State X} (hst : SameVariables s t) (htu : SameVariables t u) :
    SameVariables s u :=
  ⟨htu.locals.trans hst.locals, htu.fields.trans hst.fields, htu.created.trans hst.created⟩

-- An expression that only reads the state.
def Evaluates (host : Host X) (s : State X) (e : Expr) (value : Val X) : Prop :=
  (eval host e).outcome s = some (.ok value, s)

section Evaluation

variable {host : Host X} {s : State X}

theorem evalAll_of_evaluates {es : List Expr} {values : List (Val X)}
    (h : List.Forall₂ (Evaluates host s) es values) :
    (evalAll host es).outcome s = some (.ok values, s) := by
  induction h with
  | nil => rw [evalAll, outcome_pure]
  | @cons e value es values hfirst _ ih =>
      rw [evalAll, outcome_bind, hfirst]
      dsimp only
      rw [outcome_bind, ih]
      rfl

theorem Evaluates.this : Evaluates host s .this .this := by
  rw [Evaluates, eval]
  rfl

theorem Evaluates.text (value : String) : Evaluates host s (text value) (.text value) := by
  rw [Evaluates, Code.text, eval]
  rfl

theorem Evaluates.null : Evaluates host s nullLiteral .null := by
  rw [Evaluates, nullLiteral, eval]
  rfl

theorem Evaluates.nullOf (type : TypeRef) : Evaluates host s (nullOf type) .null := by
  rw [Evaluates, Code.nullOf, eval]
  exact Evaluates.null

theorem Evaluates.var {name : String} {value : Val X} (h : s.locals name = some value) :
    Evaluates host s (.var name) value := by
  rw [Evaluates, eval, readLocal, outcome_ofState, h]
  rfl

theorem Evaluates.stringArray {es : List Expr} {values : List (Val X)}
    (h : List.Forall₂ (Evaluates host s) es values) :
    Evaluates host s (stringArray es) (.array values) := by
  rw [Evaluates, Code.stringArray, eval, outcome_bind, evalAll_of_evaluates h]
  rfl

-- A call is made with the values of what is passed, and leaves the variables as they are.
theorem plays_invoke {target : Expr} {receiver : Val X} {arguments : List Expr}
    {values : List (Val X)} (method : String) (htarget : Evaluates host s target receiver)
    (harguments : List.Forall₂ (Evaluates host s) arguments values) :
    Plays host (exec host none (invoke target method arguments)) s [⟨receiver, method, values⟩]
      (SameVariables s) := by
  have hcall : (eval host (.call target method arguments)).outcome s =
      some (host.answer s.calls ⟨receiver, method, values⟩,
        { s with calls := s.calls ++ [⟨receiver, method, values⟩] }) := by
    rw [eval, outcome_bind, htarget]
    dsimp only
    rw [outcome_bind, evalAll_of_evaluates harguments]
    rfl
  have hexec : (exec host none (invoke target method arguments)).outcome s =
      some ((host.answer s.calls ⟨receiver, method, values⟩).map fun _ => .next,
        { s with calls := s.calls ++ [⟨receiver, method, values⟩] }) := by
    rw [invoke, exec, outcome_bind, hcall]
    cases host.answer s.calls ⟨receiver, method, values⟩ <;> rfl
  refine ⟨_, _, hexec, ?_, ?_⟩
  · rw [Host.play]
    cases host.answer s.calls ⟨receiver, method, values⟩ <;> rfl
  · intro flow hflow
    cases hanswer : host.answer s.calls ⟨receiver, method, values⟩ with
    | ok value =>
        rw [hanswer] at hflow
        exact ⟨(Except.ok.inj hflow).symm, rfl, rfl, rfl⟩
    | error x =>
        rw [hanswer] at hflow
        cases hflow

theorem plays_declare {type : Slot TypeRef} {init : Expr} {value : Val X} (name : String)
    (hinit : Evaluates host s init value) :
    Plays host (exec host none (.declare type name (some init))) s []
      (fun t => t = s.setLocal name (some value)) := by
  have hexec : (exec host none (.declare type name (some init))).outcome s =
      some (.ok .next, s.setLocal name (some value)) := by
    rw [exec, evalInit, outcome_bind, hinit]
    rfl
  exact .silent hexec rfl rfl

-- A new object gets the next number.
theorem plays_declare_create {type : Slot TypeRef} {created : TypeRef} {arguments : List Expr}
    {values : List (Val X)} (name : String)
    (harguments : List.Forall₂ (Evaluates host s) arguments values) :
    Plays host (exec host none (.declare type name (some (.create (.of created) arguments)))) s []
      (fun t => t = State.setLocal { s with created := s.created + 1 } name
        (some (.object created.name s.created values))) := by
  have hexec : (exec host none
      (.declare type name (some (.create (.of created) arguments)))).outcome s =
      some (.ok .next, State.setLocal { s with created := s.created + 1 } name
        (some (.object created.name s.created values))) := by
    rw [exec, evalInit, eval, outcome_bind, outcome_bind, evalAll_of_evaluates harguments]
    rfl
  exact .silent hexec rfl rfl

end Evaluation

-- A method whose statements make the calls.
theorem Method.run_of_plays {host : Host X} {m : Method} {fields : String → Option (Val X)}
    {arguments : List (Val X)} {calls : List (Call X)} {after : State X → Prop}
    (hlength : m.parameterNames.length = arguments.length)
    (h : Plays host (execAll host none m.statements)
      { locals := fun name => (m.parameterNames.zip arguments).lookup name, fields } calls after) :
    m.run host fields arguments = some (host.played calls) := by
  obtain ⟨result, t, hm, hplay, hnext⟩ := h
  have hplay : host.play [] calls = (result.map fun _ => (), t.calls) := hplay
  rw [Method.run, if_pos hlength]
  dsimp only
  rw [hm, Host.played, hplay]
  cases result with
  | error x => rfl
  | ok flow =>
      obtain ⟨rfl, -⟩ := hnext flow rfl
      rfl

end Rehearsal.Code
