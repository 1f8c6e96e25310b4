import Rehearsal.Code.Build

namespace Rehearsal.Code

-- A value of a running program. What exceptions are is left open.
inductive Val (X : Type) where
  | null
  | bool (value : Bool)
  | int (value : Int)
  | text (value : String)
  | array (items : List (Val X))
  | this
  | type (name : String)
  | constant (type name : String)
  -- Objects of one type and with the same arguments differ in their numbers.
  | object (type : String) (number : Nat) (arguments : List (Val X))
  | thrown (exception : X)

-- A call that leaves the running method.
structure Call (X : Type) where
  target : Val X
  method : String
  arguments : List (Val X)

structure State (X : Type) where
  locals : String → Option (Val X)
  fields : String → Option (Val X)
  -- The number of objects created so far.
  created : Nat := 0
  -- The calls made so far, in order.
  calls : List (Call X) := []

-- What surrounds a running method: which exceptions are of which type, and what comes of a call
-- given the calls before it.
structure Host (X : Type) where
  isA : X → String → Bool
  answer : List (Call X) → Call X → Except X (Val X)

-- Where the control goes after a statement.
inductive Flow (X : Type) where
  | next
  | left (value : Val X)

def Flow.value {X : Type} : Flow X → Val X
  | .next => .null
  | .left value => value

namespace State

variable {X : Type}

def setLocal (s : State X) (name : String) (value : Option (Val X)) : State X :=
  { s with locals := fun n => if n = name then value else s.locals n }

def setField (s : State X) (name : String) (value : Val X) : State X :=
  { s with fields := fun n => if n = name then some value else s.fields n }

@[simp] theorem locals_setLocal_self (s : State X) (name : String) (value : Option (Val X)) :
    (s.setLocal name value).locals name = value := by
  simp [setLocal]

theorem locals_setLocal_of_ne (s : State X) {name other : String} (value : Option (Val X))
    (h : other ≠ name) : (s.setLocal name value).locals other = s.locals other := by
  simp [setLocal, h]

@[simp] theorem fields_setLocal (s : State X) (name : String) (value : Option (Val X)) :
    (s.setLocal name value).fields = s.fields := rfl

@[simp] theorem calls_setLocal (s : State X) (name : String) (value : Option (Val X)) :
    (s.setLocal name value).calls = s.calls := rfl

end State

-- A computation that may throw, and that stops without a result where a program has no meaning
-- or does not end.
abbrev Exec (X : Type) := ExceptT X (StateT (State X) Option)

namespace Exec

variable {X α β : Type}

def outcome (m : Exec X α) (s : State X) : Option (Except X α × State X) := m s

def stuck : Exec X α := fun _ => none

-- A partial operation on the state.
def ofState (f : State X → Option (Except X α × State X)) : Exec X α := f

def need (value : Option α) : Exec X α :=
  match value with
  | some a => pure a
  | none => stuck

@[simp] theorem outcome_pure (a : α) (s : State X) :
    (pure a : Exec X α).outcome s = some (.ok a, s) := rfl

@[simp] theorem outcome_throw (x : X) (s : State X) :
    (throw x : Exec X α).outcome s = some (.error x, s) := rfl

@[simp] theorem outcome_ofState (f : State X → Option (Except X α × State X)) (s : State X) :
    (ofState f).outcome s = f s := rfl

@[simp] theorem outcome_need_some (a : α) (s : State X) :
    (need (some a)).outcome s = some (.ok a, s) := rfl

@[simp] theorem outcome_need_none (s : State X) :
    (need none : Exec X α).outcome s = none := rfl

@[simp] theorem outcome_bind (m : Exec X α) (f : α → Exec X β) (s : State X) :
    (m >>= f).outcome s =
      match m.outcome s with
      | some (.ok a, s') => (f a).outcome s'
      | some (.error x, s') => some (.error x, s')
      | none => none := by
  simp only [outcome, bind, ExceptT.bind, ExceptT.mk, StateT.bind]
  rcases m s with _ | ⟨_ | _, s'⟩ <;> rfl

@[simp] theorem outcome_map (f : α → β) (m : Exec X α) (s : State X) :
    (f <$> m).outcome s =
      match m.outcome s with
      | some (.ok a, s') => some (.ok (f a), s')
      | some (.error x, s') => some (.error x, s')
      | none => none := by
  simp only [outcome, Functor.map, ExceptT.map, ExceptT.mk, bind, StateT.bind]
  rcases m s with _ | ⟨_ | _, s'⟩ <;> rfl

@[simp] theorem outcome_tryCatch (m : Exec X α) (f : X → Exec X α) (s : State X) :
    (tryCatch m f).outcome s =
      match m.outcome s with
      | some (.ok a, s') => some (.ok a, s')
      | some (.error x, s') => (f x).outcome s'
      | none => none := by
  simp only [outcome, tryCatch, tryCatchThe, MonadExceptOf.tryCatch, ExceptT.tryCatch, ExceptT.mk,
    bind, StateT.bind]
  rcases m s with _ | ⟨_ | _, s'⟩ <;> rfl

end Exec

open Exec

variable {X : Type}

namespace Operator

-- Whether two values are one. That is certain only where null is one of them.
def isSame? : Val X → Val X → Option Bool
  | .null, .null => some true
  | .null, _ => some false
  | _, .null => some false
  | _, _ => none

def isEqual? : Val X → Val X → Option Bool
  | .bool a, .bool b => some (a = b)
  | .int a, .int b => some (a = b)
  | .text a, .text b => some (a = b)
  | a, b => isSame? a b

def result? : Operator → Val X → Val X → Option (Val X)
  | .plus, .int a, .int b => some (.int (a + b))
  | .plus, .text a, .text b => some (.text (a ++ b))
  | .plus, _, _ => none
  | .atMost, .int a, .int b => some (.bool (a ≤ b))
  | .atMost, _, _ => none
  | .equals, a, b => (isEqual? a b).map .bool
  | .identical, a, b => (isSame? a b).map .bool
  | .distinct, a, b => (isSame? a b).map fun same => .bool (!same)

end Operator

-- A format text with its slots filled. Inside a slot the digits read so far give its number.
def fillFrom (arguments : List String) : Option Nat → List Char → Option (List Char)
  | none, [] => some []
  | some _, [] => none
  | some number, c :: rest =>
      if c == '\x7d' then
        arguments[number]?.bind fun value =>
          (fillFrom arguments none rest).map (value.toList ++ ·)
      else if c.isDigit then fillFrom arguments (some (10 * number + (c.toNat - '0'.toNat))) rest
      else none
  | none, c :: next :: rest =>
      if c == '\x7b' then
        if next == '\x7b' then (fillFrom arguments none rest).map (c :: ·)
        else if next.isDigit then
          fillFrom arguments (some (next.toNat - '0'.toNat)) rest
        else none
      else if c == '\x7d' then
        if next == '\x7d' then (fillFrom arguments none rest).map (c :: ·) else none
      else (fillFrom arguments none (next :: rest)).map (c :: ·)
  | none, [c] => if c == '\x7b' || c == '\x7d' then none else some [c]

namespace Val

def ofLiteral : Literal → Val X
  | .null => .null
  | .bool value => .bool value
  | .int value => .int value
  | .text value => .text value

def text? : Val X → Option String
  | .text value => some value
  | _ => none

def items? : Val X → Option (List (Val X))
  | .array items => some items
  | _ => none

def bool? : Val X → Option Bool
  | .bool value => some value
  | _ => none

def exception? : Val X → Option X
  | .thrown x => some x
  | _ => none

def field? (s : State X) (name : String) : Val X → Option (Val X)
  | .this => s.fields name
  | .type owner => some (.constant owner name)
  | _ => none

def filled? (template : String) (arguments : List (Val X)) : Option (Val X) :=
  (arguments.mapM text?).bind fun arguments =>
    (fillFrom arguments none template.toList).map fun filled => .text (String.ofList filled)

end Val

-- Hands a call over to the host.
def perform (host : Host X) (call : Call X) : Exec X (Val X) :=
  ofState fun s => some (host.answer s.calls call, { s with calls := s.calls ++ [call] })

def allocate (type : String) (arguments : List (Val X)) : Exec X (Val X) :=
  ofState fun s =>
    some (.ok (.object type s.created arguments), { s with created := s.created + 1 })

def readLocal (name : String) : Exec X (Val X) :=
  ofState fun s => (s.locals name).map fun value => (.ok value, s)

def readField (target : Val X) (name : String) : Exec X (Val X) :=
  ofState fun s => (target.field? s name).map fun value => (.ok value, s)

def writeLocal (name : String) (value : Option (Val X)) : Exec X Unit :=
  ofState fun s => some (.ok (), s.setLocal name value)

def writeField (name : String) (value : Val X) : Exec X Unit :=
  ofState fun s => some (.ok (), s.setField name value)

-- Whatever comes of the computation, the name means nothing after it.
def forgetting {α : Type} (name : String) (m : Exec X α) : Exec X α :=
  ofState fun s => (m.outcome s).map fun (result, s) => (result, s.setLocal name none)

mutual

-- Operands are evaluated from the left.
def eval (host : Host X) : Expr → Exec X (Val X)
  | .literal value => pure (.ofLiteral value)
  | .var name => readLocal name
  | .this => pure .this
  | .typeName (.of type) => pure (.type type.name)
  | .field target name => do
      let target ← eval host target
      readField target name
  | .call target method arguments => do
      let target ← eval host target
      let arguments ← evalAll host arguments
      perform host ⟨target, method, arguments⟩
  | .create (.of type) arguments => do
      let arguments ← evalAll host arguments
      allocate type.name arguments
  | .array _ items => do
      let items ← evalAll host items
      return .array items
  | .cast _ inner => eval host inner
  | .binary left operator right => do
      let left ← eval host left
      let right ← eval host right
      need (operator.result? left right)
  | .format template arguments => do
      let arguments ← evalAll host arguments
      need (Val.filled? template arguments)
  | .concat left right => do
      let left ← eval host left
      let right ← eval host right
      let front ← need left.items?
      let back ← need right.items?
      return .array (front ++ back)
  | .typeName (.foreign _) | .create (.foreign _) _ | .foreign _ => stuck

def evalAll (host : Host X) : List Expr → Exec X (List (Val X))
  | [] => pure []
  | e :: rest => do
      let first ← eval host e
      let others ← evalAll host rest
      return first :: others

end

-- A missing initial value is null.
def evalInit (host : Host X) : Option Expr → Exec X (Val X)
  | none => pure .null
  | some e => eval host e

def store : Expr → Val X → Exec X Unit
  | .var name, value => writeLocal name (some value)
  | .field .this name, value => writeField name value
  | _, _ => stuck

-- Goes on with the next statement unless the method has been left.
def andThen (first rest : Exec X (Flow X)) : Exec X (Flow X) := do
  match ← first with
  | .next => rest
  | .left value => return .left value

def fork (condition : Exec X (Val X)) (yes no : Exec X (Flow X)) : Exec X (Flow X) := do
  let value ← condition
  if ← need value.bool? then yes else no

-- One turn of a loop, given what follows if it goes on.
def turn (test : Exec X (Val X)) (body again : Exec X (Flow X)) : Exec X (Flow X) := do
  let value ← test
  if ← need value.bool? then
    match ← body with
    | .next => again
    | .left value => return .left value
  else return .next

-- A loop that is cut off after some turns.
def turns (test : Exec X (Val X)) (body : Exec X (Flow X)) : Nat → Exec X (Flow X)
  | 0 => stuck
  | n + 1 => turn test body (turns test body n)

open Classical in
-- Repeats a body as long as a test holds before it: what enough turns come to. There need not be
-- enough of them.
noncomputable def iterate (test : Exec X (Val X)) (body : Exec X (Flow X)) : Exec X (Flow X) :=
  ofState fun s =>
    if h : ∃ r n, (turns test body n).outcome s = some r then some h.choose else none

section Iterate

variable {test : Exec X (Val X)} {body : Exec X (Flow X)} {s s₁ s₂ : State X}

-- A turn either leads on from another state, or comes to the same whatever follows.
theorem turn_cases (test : Exec X (Val X)) (body : Exec X (Flow X)) (s : State X) :
    (∃ s', ∀ again, (turn test body again).outcome s = again.outcome s') ∨
      ∃ result, ∀ again, (turn test body again).outcome s = result := by
  rcases ht : test.outcome s with _ | ⟨x | value, s₁⟩
  · exact .inr ⟨none, fun _ => by simp [turn, ht]⟩
  · exact .inr ⟨some (.error x, s₁), fun _ => by simp [turn, ht]⟩
  · rcases hvalue : value.bool? with _ | _ | _
    · exact .inr ⟨none, fun _ => by simp [turn, ht, hvalue]⟩
    · exact .inr ⟨some (.ok .next, s₁), fun _ => by simp [turn, ht, hvalue]⟩
    · rcases hb : body.outcome s₁ with _ | ⟨x | _ | value, s₂⟩
      · exact .inr ⟨none, fun _ => by simp [turn, ht, hvalue, hb]⟩
      · exact .inr ⟨some (.error x, s₂), fun _ => by simp [turn, ht, hvalue, hb]⟩
      · exact .inl ⟨s₂, fun _ => by simp [turn, ht, hvalue, hb]⟩
      · exact .inr ⟨some (.ok (.left value), s₂), fun _ => by simp [turn, ht, hvalue, hb]⟩

theorem turns_unique {n m : Nat} {r r' : Except X (Flow X) × State X}
    (h : (turns test body n).outcome s = some r) (h' : (turns test body m).outcome s = some r') :
    r = r' := by
  induction n generalizing m s with
  | zero => cases h
  | succ n ih =>
      cases m with
      | zero => cases h'
      | succ m =>
          rw [turns] at h h'
          obtain ⟨next, hturn⟩ | ⟨result, hturn⟩ := turn_cases test body s
          · rw [hturn] at h h'
            exact ih h h'
          · rw [hturn] at h h'
            exact Option.some.inj (h.symm.trans h')

theorem iterate_eq_some {r : Except X (Flow X) × State X} :
    (iterate test body).outcome s = some r ↔ ∃ n, (turns test body n).outcome s = some r := by
  rw [iterate, outcome_ofState]
  by_cases h : ∃ r n, (turns test body n).outcome s = some r
  · obtain ⟨n, hn⟩ := h.choose_spec
    rw [dif_pos h]
    refine ⟨fun heq => ⟨n, hn.trans heq⟩, fun ⟨m, hm⟩ => ?_⟩
    rw [turns_unique hn hm]
  · rw [dif_neg h]
    exact ⟨fun heq => absurd heq (by simp), fun ⟨n, hn⟩ => absurd ⟨r, n, hn⟩ h⟩

-- A loop is one turn of it, and the loop again.
theorem outcome_iterate (s : State X) :
    (iterate test body).outcome s = (turn test body (iterate test body)).outcome s := by
  apply Option.ext
  intro r
  rw [iterate_eq_some]
  obtain ⟨next, hturn⟩ | ⟨result, hturn⟩ := turn_cases test body s
  · rw [hturn, iterate_eq_some]
    constructor
    · rintro ⟨_ | n, hn⟩
      · cases hn
      · exact ⟨n, by rwa [turns, hturn] at hn⟩
    · rintro ⟨n, hn⟩
      exact ⟨n + 1, by rwa [turns, hturn]⟩
  · rw [hturn]
    constructor
    · rintro ⟨_ | n, hn⟩
      · cases hn
      · rwa [turns, hturn] at hn
    · intro hr
      exact ⟨1, by rwa [turns, hturn]⟩

theorem iterate_stop (ht : test.outcome s = some (.ok (.bool false), s₁)) :
    (iterate test body).outcome s = some (.ok .next, s₁) := by
  rw [outcome_iterate, turn]
  simp [ht, Val.bool?]

theorem iterate_again (ht : test.outcome s = some (.ok (.bool true), s₁))
    (hb : body.outcome s₁ = some (.ok .next, s₂)) :
    (iterate test body).outcome s = (iterate test body).outcome s₂ := by
  rw [outcome_iterate, turn]
  simp [ht, Val.bool?, hb]

theorem iterate_left {value : Val X} (ht : test.outcome s = some (.ok (.bool true), s₁))
    (hb : body.outcome s₁ = some (.ok (.left value), s₂)) :
    (iterate test body).outcome s = some (.ok (.left value), s₂) := by
  rw [outcome_iterate, turn]
  simp [ht, Val.bool?, hb]

theorem iterate_thrown {x : X} (ht : test.outcome s = some (.ok (.bool true), s₁))
    (hb : body.outcome s₁ = some (.error x, s₂)) :
    (iterate test body).outcome s = some (.error x, s₂) := by
  rw [outcome_iterate, turn]
  simp [ht, Val.bool?, hb]

end Iterate

mutual

-- The exception that a handler is running for can be thrown on.
noncomputable def exec (host : Host X) (handled : Option X) : Stmt → Exec X (Flow X)
  | .eval value => do
      let _ ← eval host value
      return .next
  | .declare _ name init => do
      let value ← evalInit host init
      writeLocal name (some value)
      return .next
  | .assign left right => do
      let value ← eval host right
      store left value
      return .next
  | .loop init test increment body =>
      andThen (exec host handled init)
        (iterate (eval host test)
          (andThen (execAll host handled body) (exec host handled increment)))
  | .guarded body handlers =>
      tryCatch (execAll host handled body) fun x => handle host x handlers
  | .branch condition yes no =>
      fork (eval host condition) (execAll host handled yes) (execAll host handled no)
  | .leave value => do
      let value ← evalInit host value
      return .left value
  | .throw none => do
      let x ← need handled
      throw x
  | .throw (some value) => do
      let value ← eval host value
      let x ← need value.exception?
      throw x
  | .foreign _ => stuck

noncomputable def execAll (host : Host X) (handled : Option X) : List Stmt → Exec X (Flow X)
  | [] => return .next
  | first :: rest => andThen (exec host handled first) (execAll host handled rest)

-- The first handler of a fitting type takes over.
noncomputable def handle (host : Host X) (x : X) : List Handler → Exec X (Flow X)
  | [] => throw x
  | .mk name (.of type) body :: rest =>
      if host.isA x type.name then do
        writeLocal name (some (.thrown x))
        forgetting name (execAll host (some x) body)
      else handle host x rest
  | .mk _ (.foreign _) _ :: _ | .foreign _ :: _ => stuck

end

def Method.parameterNames (m : Method) : List String :=
  m.parameters.filterMap fun p => p.value?.map (·.name)

-- Runs a method on its own, with its parameters bound to the arguments in order, and gives what
-- comes of it and the calls that it made.
noncomputable def Method.run (host : Host X) (m : Method) (fields : String → Option (Val X))
    (arguments : List (Val X)) : Option (Except X (Val X) × List (Call X)) :=
  if m.parameterNames.length = arguments.length then
    let start : State X :=
      { locals := fun name => (m.parameterNames.zip arguments).lookup name, fields }
    ((execAll host none m.statements).outcome start).map fun (result, s) =>
      (result.map Flow.value, s.calls)
  else none

end Rehearsal.Code
