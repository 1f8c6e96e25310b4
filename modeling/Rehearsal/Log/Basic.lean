namespace Rehearsal

inductive Level where
  | debug
  | info
  | warning
  | error
  deriving DecidableEq, Repr

def Level.name : Level → String
  | .debug => "DEBUG"
  | .info => "INFO"
  | .warning => "WARNING"
  | .error => "ERROR"

structure Entry where
  level : Level
  text : String
  deriving DecidableEq, Repr

-- A computation that logs. Entries that were logged before a failure stay.
structure Run (ε α : Type) where
  log : List Entry
  result : Except ε α

namespace Run

variable {ε δ α β : Type}

protected def pure (a : α) : Run ε α := ⟨[], .ok a⟩

protected def bind (x : Run ε α) (f : α → Run ε β) : Run ε β :=
  match x.result with
  | .error e => ⟨x.log, .error e⟩
  | .ok a => ⟨x.log ++ (f a).log, (f a).result⟩

instance : Monad (Run ε) where
  pure := Run.pure
  bind := Run.bind

def fail (e : ε) : Run ε α := ⟨[], .error e⟩

def ofExcept (result : Except ε α) : Run ε α := ⟨[], result⟩

def tell (level : Level) (text : String) : Run ε Unit := ⟨[⟨level, text⟩], .ok ()⟩

def debug (text : String) : Run ε Unit := tell .debug text

def info (text : String) : Run ε Unit := tell .info text

def warn (text : String) : Run ε Unit := tell .warning text

def mapError (f : ε → δ) (x : Run ε α) : Run δ α := ⟨x.log, x.result.mapError f⟩

@[simp] theorem result_pure (a : α) : (pure a : Run ε α).result = .ok a := rfl

@[simp] theorem log_pure (a : α) : (pure a : Run ε α).log = [] := rfl

instance : LawfulMonad (Run ε) := LawfulMonad.mk' (Run ε)
  (fun x => by rcases x with ⟨log, _ | _⟩ <;> simp [Functor.map, Run.bind, Run.pure])
  (fun a f => by simp [bind, pure, Run.bind, Run.pure])
  (fun x f g => by
    rcases x with ⟨log, _ | a⟩
    · rfl
    · rcases h : f a with ⟨more, _ | b⟩ <;> simp [bind, Run.bind, h])

end Run

end Rehearsal
