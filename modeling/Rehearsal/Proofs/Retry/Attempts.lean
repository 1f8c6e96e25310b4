import Rehearsal.Proofs.Code.Execution
import Rehearsal.Proofs.Retry.Result

namespace Rehearsal.Retry

open Code

variable {X : Type}

-- An exception of the type that ends the attempts. An empty name is no type.
def Spared (isA : X → String → Bool) (spared : Option String) (x : X) : Prop :=
  ∃ name, spared = some name ∧ name ≠ "" ∧ isA x name

-- An exception that another attempt is made for.
def Kept (isA : X → String → Bool) (spared : Option String) (x : X) : Prop :=
  isA x "Exception" ∧ ¬ Spared isA spared x

-- An attempt that does not settle the test.
def Fails (isA : X → String → Bool) (spared : Option String) : Except X (Val X) → Prop
  | .ok _ => False
  | .error x => Kept isA spared x

theorem Fails.thrown {isA : X → String → Bool} {spared : Option String} {o : Except X (Val X)}
    (h : Fails isA spared o) : ∃ x, o = .error x ∧ Kept isA spared x := by
  cases o with
  | ok value => exact h.elim
  | error x => exact ⟨x, rfl, h⟩

def isAttempt (inner : String) (call : Call X) : Bool :=
  match call.target with
  | .this => call.method == inner
  | _ => false

-- The inner method ends as the outcomes say, one after the other. Every other call returns.
def hostOf (isA : X → String → Bool) (inner : String) (outcomes : Nat → Except X (Val X)) :
    Host X where
  isA := isA
  answer before call :=
    if isAttempt inner call then outcomes (before.countP (isAttempt inner)) else .ok .null

def attemptCall (inner : String) : Call X := ⟨.this, inner, []⟩

def scenarioEnd (runner : Val X) : Call X := ⟨runner, "OnScenarioEnd", []⟩

-- Failed attempts, after each of which the runner closes the scenario.
def rounds (inner : String) (runner : Val X) (n : Nat) : List (Call X) :=
  (List.replicate n [attemptCall inner, scenarioEnd runner]).flatten

-- All calls of a test that is settled by its attempt number k, counted from zero.
def callsUpTo (inner : String) (runner : Val X) (k : Nat) : List (Call X) :=
  rounds inner runner k ++ [attemptCall inner]

theorem rounds_succ (inner : String) (runner : Val X) (n : Nat) :
    rounds inner runner (n + 1) =
      rounds inner runner n ++ [attemptCall inner, scenarioEnd runner] := by
  simp [rounds, List.replicate_succ']

section Loop

variable (isA : X → String → Bool) (outcomes : Nat → Except X (Val X)) (inner : Method)
  {spared : Option String} {type : String} {number : Nat} {arguments : List (Val X)}

theorem countP_rounds (n : Nat) :
    (rounds inner.name (.object type number arguments) n).countP (isAttempt inner.name) = n := by
  induction n with
  | zero => rfl
  | succ n ih =>
      rw [rounds_succ, List.countP_append, ih]
      simp [attemptCall, scenarioEnd, isAttempt]

-- What one call of the inner method comes to. The number of calls before it picks the outcome.
theorem outcome_invokeThis (s : State X) :
    (exec (hostOf isA inner.name outcomes) none (invokeThis inner.name [])).outcome s =
      some ((outcomes (s.calls.countP (isAttempt inner.name))).map fun _ => .next,
        { s with calls := s.calls ++ [attemptCall inner.name] }) := by
  cases h : outcomes (s.calls.countP (isAttempt inner.name)) <;>
    simp [invokeThis, invoke, exec, eval, evalAll, perform, hostOf, isAttempt, attemptCall, h,
      Except.map]

theorem handle_spared (host : Host X) {x : X} (hx : Spared host.isA spared x) (s : State X) :
    ∃ s', (handle host x (handlers spared)).outcome s = some (.error x, s') ∧
      s'.calls = s.calls := by
  obtain ⟨name, rfl, hn, hx⟩ := hx
  simp [handlers, hn, handle, typeNamed, hx, writeLocal, forgetting, execAll, andThen, exec]

theorem handle_of_not_spared (host : Host X) {x : X} (hx : ¬ Spared host.isA spared x) :
    handle host x (handlers spared) = handle host x (handlers none) := by
  cases spared with
  | none => rfl
  | some name =>
      by_cases hn : name = ""
      · simp [handlers, hn]
      · have hno : ¬ host.isA x name := fun h => hx ⟨name, rfl, hn, h⟩
        simp [handlers, hn, handle, typeNamed, hno]

theorem handle_kept (host : Host X) {x : X} (hx : Kept host.isA spared x) (s : State X) :
    ∃ s', (handle host x (handlers spared)).outcome s = some (.ok .next, s') ∧
      s'.locals "lastException" = some (.thrown x) ∧ s'.locals "i" = s.locals "i" ∧
      s'.fields = s.fields ∧ s'.calls = s.calls := by
  obtain ⟨hex, hno⟩ := hx
  rw [handle_of_not_spared host hno]
  simp [handlers, handle, exceptionType, hex, writeLocal, forgetting, execAll, andThen, exec, eval,
    readLocal, lastException, store, State.locals_setLocal_of_ne]

-- An exception that is not kept passes through the handlers as it is.
theorem handle_not_kept (host : Host X) {x : X} (hx : ¬ Kept host.isA spared x) (s : State X) :
    ∃ s', (handle host x (handlers spared)).outcome s = some (.error x, s') ∧
      s'.calls = s.calls := by
  by_cases hspared : Spared host.isA spared x
  · exact handle_spared host hspared s
  · have hex : ¬ host.isA x "Exception" := fun h => hx ⟨h, hspared⟩
    rw [handle_of_not_spared host hspared]
    exact ⟨s, by simp [handlers, handle, exceptionType, hex], rfl⟩

-- The state before attempt number i.
structure Poised (inner : String) (runner : Val X) (i : Nat) (s : State X) : Prop where
  counter : s.locals "i" = some (.int i)
  field : s.fields Runner.field = some runner
  calls : s.calls = rounds inner runner i

theorem attempt_settles (hp : inner.parameters = []) (s : State X)
    (h : ¬ Fails isA spared (outcomes (s.calls.countP (isAttempt inner.name)))) :
    ∃ s', (exec (hostOf isA inner.name outcomes) none (attempt inner spared)).outcome s =
        some ((outcomes (s.calls.countP (isAttempt inner.name))).map fun _ => .left .null, s') ∧
      s'.calls = s.calls ++ [attemptCall inner.name] := by
  have hcall := outcome_invokeThis isA outcomes inner s
  cases hout : outcomes (s.calls.countP (isAttempt inner.name)) with
  | ok value =>
      rw [hout] at hcall
      simp [attempt, hp, passedOn, exec, execAll, andThen, hcall, Except.map, evalInit]
  | error x =>
      rw [hout] at hcall h
      obtain ⟨s', hs, hc⟩ := handle_not_kept (hostOf isA inner.name outcomes) h
        { s with calls := s.calls ++ [attemptCall inner.name] }
      refine ⟨s', ?_, hc⟩
      simp [attempt, hp, passedOn, exec, execAll, andThen, hcall, Except.map, hs]

theorem attempt_fails (hp : inner.parameters = []) (s : State X) {x : X}
    (hout : outcomes (s.calls.countP (isAttempt inner.name)) = .error x) (hx : Kept isA spared x) :
    ∃ s', (exec (hostOf isA inner.name outcomes) none (attempt inner spared)).outcome s =
        some (.ok .next, s') ∧
      s'.locals "lastException" = some (.thrown x) ∧ s'.locals "i" = s.locals "i" ∧
      s'.fields = s.fields ∧ s'.calls = s.calls ++ [attemptCall inner.name] := by
  have hcall := outcome_invokeThis isA outcomes inner s
  rw [hout] at hcall
  obtain ⟨s', hs, hlast, hi, hf, hc⟩ := handle_kept (hostOf isA inner.name outcomes) hx
    { s with calls := s.calls ++ [attemptCall inner.name] }
  refine ⟨s', ?_, hlast, hi, hf, hc⟩
  simp [attempt, hp, passedOn, exec, execAll, andThen, hcall, Except.map, hs]

-- The parts of the loop.
def proceed (count : Int) : Expr := .binary counter .atMost (int count)

def closing (count : Int) : Stmt :=
  .branch (.binary counterPlusOne .atMost (int count)) [Runner.call "OnScenarioEnd" []] []

def advance : Stmt := .assign counter counterPlusOne

noncomputable def round (host : Host X) (inner : Method) (count : Int) (spared : Option String) :
    Exec X (Flow X) :=
  andThen (execAll host none [attempt inner spared, closing count]) (exec host none advance)

theorem outcome_proceed (host : Host X) {s : State X} {i : Int} (hi : s.locals "i" = some (.int i))
    (count : Int) : (eval host (proceed count)).outcome s = some (.ok (.bool (i ≤ count)), s) := by
  simp [proceed, eval, counter, int, readLocal, hi, Val.ofLiteral, Operator.result?]

theorem outcome_advance (host : Host X) (s : State X) {i : Int} (hi : s.locals "i" = some (.int i)) :
    (exec host none advance).outcome s = some (.ok .next, s.setLocal "i" (some (.int (i + 1)))) := by
  simp [advance, exec, counterPlusOne, eval, counter, int, readLocal, hi, Val.ofLiteral,
    Operator.result?, store, writeLocal]

theorem outcome_scenarioEnd {s : State X}
    (hf : s.fields Runner.field = some (.object type number arguments)) :
    (exec (hostOf isA inner.name outcomes) none (Runner.call "OnScenarioEnd" [])).outcome s =
      some (.ok .next,
        { s with calls := s.calls ++ [scenarioEnd (.object type number arguments)] }) := by
  simp [Runner.call, Runner.expr, thisField, invoke, exec, eval, evalAll, readField, Val.field?, hf,
    perform, hostOf, isAttempt, scenarioEnd]

-- The runner closes the scenario unless the attempt was the last one.
theorem outcome_closing {s : State X} {i : Int} (count : Int) (hi : s.locals "i" = some (.int i))
    (hf : s.fields Runner.field = some (.object type number arguments)) :
    (exec (hostOf isA inner.name outcomes) none (closing count)).outcome s =
      some (.ok .next,
        if i + 1 ≤ count then
          { s with calls := s.calls ++ [scenarioEnd (.object type number arguments)] }
        else s) := by
  have htest : (eval (hostOf isA inner.name outcomes)
      (.binary counterPlusOne .atMost (int count))).outcome s =
        some (.ok (.bool (i + 1 ≤ count)), s) := by
    simp [counterPlusOne, eval, counter, int, readLocal, hi, Val.ofLiteral, Operator.result?]
  by_cases hlast : i + 1 ≤ count <;>
    simp [closing, exec, fork, htest, Val.bool?, hlast, execAll, andThen,
      outcome_scenarioEnd isA outcomes inner hf]

theorem round_settles (count : Nat) {i : Nat} {s : State X} (hp : inner.parameters = [])
    (hs : Poised inner.name (.object type number arguments) i s)
    (h : ¬ Fails isA spared (outcomes i)) :
    ∃ s', (round (hostOf isA inner.name outcomes) inner count spared).outcome s =
        some ((outcomes i).map fun _ => .left .null, s') ∧
      s'.calls = callsUpTo inner.name (.object type number arguments) i := by
  have hcount : s.calls.countP (isAttempt inner.name) = i := by rw [hs.calls, countP_rounds]
  obtain ⟨s', ho, hc⟩ := attempt_settles isA outcomes inner hp s (by rwa [hcount])
  rw [hcount] at ho
  refine ⟨s', ?_, by rw [hc, hs.calls, callsUpTo]⟩
  cases hout : outcomes i <;> simp [round, andThen, execAll, ho, hout, Except.map]

-- An attempt that fails before the last one leads to the next.
theorem round_fails {count i : Nat} {s : State X} {x : X} (hp : inner.parameters = [])
    (hs : Poised inner.name (.object type number arguments) i s)
    (hout : outcomes i = .error x) (hx : Kept isA spared x) (hi : i < count) :
    ∃ s', (round (hostOf isA inner.name outcomes) inner count spared).outcome s =
        some (.ok .next, s') ∧
      Poised inner.name (.object type number arguments) (i + 1) s' := by
  have hcount : s.calls.countP (isAttempt inner.name) = i := by rw [hs.calls, countP_rounds]
  obtain ⟨s₁, ho, -, hi₁, hf, hc⟩ := attempt_fails isA outcomes inner hp s (hcount.symm ▸ hout) hx
  have hcounter : s₁.locals "i" = some (.int i) := hi₁.trans hs.counter
  have hclose := outcome_closing isA outcomes inner count hcounter (by rw [hf]; exact hs.field)
  rw [if_pos (by omega)] at hclose
  let s₂ : State X := { s₁ with calls := s₁.calls ++ [scenarioEnd (.object type number arguments)] }
  have hadvance := outcome_advance (hostOf isA inner.name outcomes) s₂ hcounter
  refine ⟨s₂.setLocal "i" (some (.int (i + 1))), ?_, ?_, ?_, ?_⟩
  · simp [round, andThen, execAll, ho, hclose, hadvance, s₂]
  · simp
  · simp [s₂, hf, hs.field]
  · simp [s₂, hc, hs.calls, rounds_succ]

-- After the last attempt the loop ends with its exception kept.
theorem round_fails_last {count : Nat} {s : State X} {x : X} (hp : inner.parameters = [])
    (hs : Poised inner.name (.object type number arguments) count s)
    (hout : outcomes count = .error x) (hx : Kept isA spared x) :
    ∃ s', (round (hostOf isA inner.name outcomes) inner count spared).outcome s =
        some (.ok .next, s') ∧
      s'.locals "i" = some (.int (count + 1)) ∧ s'.locals "lastException" = some (.thrown x) ∧
      s'.calls = callsUpTo inner.name (.object type number arguments) count := by
  have hcount : s.calls.countP (isAttempt inner.name) = count := by rw [hs.calls, countP_rounds]
  obtain ⟨s₁, ho, hlast, hi₁, hf, hc⟩ := attempt_fails isA outcomes inner hp s (hcount.symm ▸ hout) hx
  have hcounter : s₁.locals "i" = some (.int count) := hi₁.trans hs.counter
  have hclose := outcome_closing isA outcomes inner count hcounter (by rw [hf]; exact hs.field)
  rw [if_neg (by omega)] at hclose
  have hadvance := outcome_advance (hostOf isA inner.name outcomes) s₁ hcounter
  refine ⟨s₁.setLocal "i" (some (.int (count + 1))), ?_, ?_, ?_, ?_⟩
  · simp [round, andThen, execAll, ho, hclose, hadvance]
  · simp
  · rw [State.locals_setLocal_of_ne _ _ (by decide), hlast]
  · simp [hc, hs.calls, callsUpTo]

-- As long as attempts fail the loop comes to the next one.
theorem iterate_reaches {count k : Nat} {s : State X} (hp : inner.parameters = [])
    (hs : Poised inner.name (.object type number arguments) 0 s)
    (hfail : ∀ j < k, Fails isA spared (outcomes j)) (hk : k ≤ count) :
    ∃ s', Poised inner.name (.object type number arguments) k s' ∧
      (iterate (eval (hostOf isA inner.name outcomes) (proceed count))
        (round (hostOf isA inner.name outcomes) inner count spared)).outcome s =
      (iterate (eval (hostOf isA inner.name outcomes) (proceed count))
        (round (hostOf isA inner.name outcomes) inner count spared)).outcome s' := by
  induction k with
  | zero => exact ⟨s, hs, rfl⟩
  | succ k ih =>
      obtain ⟨s₁, hs₁, heq⟩ := ih (fun j hj => hfail j (by omega)) (by omega)
      obtain ⟨x, hout, hx⟩ := (hfail k (by omega)).thrown
      have hlt : k < count := by omega
      obtain ⟨s₂, hround, hs₂⟩ := round_fails isA outcomes inner hp hs₁ hout hx hlt
      have htest := outcome_proceed (hostOf isA inner.name outcomes) hs₁.counter count
      rw [decide_eq_true (by omega)] at htest
      exact ⟨s₂, hs₂, heq.trans (iterate_again htest hround)⟩

def rethrow : Stmt :=
  .branch (.binary lastException .distinct nullLiteral) [.throw (some lastException)] []

-- The loop starts poised for its first attempt, and what is kept is thrown after it.
theorem outcome_loop {host : Host X} {count : Int} (s : State X) :
    (execAll host none (loop inner count spared)).outcome s =
      (andThen (iterate (eval host (proceed count)) (round host inner count spared))
        (execAll host none [rethrow])).outcome
        ((s.setLocal "lastException" (some .null)).setLocal "i" (some (.int 0))) := by
  have hloop : exec host none (.loop (.declare intType "i" (some (int 0))) (proceed count) advance
      [attempt inner spared, closing count]) =
        andThen (exec host none (.declare intType "i" (some (int 0))))
          (iterate (eval host (proceed count)) (round host inner count spared)) := by
    conv => lhs; rw [exec]
    rfl
  have hstart : loop inner count spared =
      [.declare exceptionType "lastException" (some nullLiteral),
        .loop (.declare intType "i" (some (int 0))) (proceed count) advance
          [attempt inner spared, closing count],
        rethrow] := rfl
  rw [hstart, execAll, execAll, hloop]
  simp [andThen, exec, evalInit, eval, nullLiteral, int, Val.ofLiteral, writeLocal]

theorem outcome_rethrow {host : Host X} {s : State X} {x : X}
    (h : s.locals "lastException" = some (.thrown x)) :
    (execAll host none [rethrow]).outcome s = some (.error x, s) := by
  simp [rethrow, execAll, andThen, exec, fork, eval, lastException, nullLiteral, readLocal, h,
    Val.ofLiteral, Operator.result?, Operator.isSame?, Val.bool?, Val.exception?]

theorem poised_start {s : State X} (hf : s.fields Runner.field = some (.object type number arguments))
    (hc : s.calls = []) :
    Poised inner.name (.object type number arguments) 0
      ((s.setLocal "lastException" (some .null)).setLocal "i" (some (.int 0))) where
  counter := by simp
  field := by simp [hf]
  calls := by simp [hc, rounds]

theorem loop_settled {count k : Nat} (s : State X) (hp : inner.parameters = [])
    (hf : s.fields Runner.field = some (.object type number arguments)) (hc : s.calls = [])
    (hfail : ∀ j < k, Fails isA spared (outcomes j)) (hk : k ≤ count)
    (hsettled : ¬ Fails isA spared (outcomes k)) :
    ∃ s', (execAll (hostOf isA inner.name outcomes) none (loop inner count spared)).outcome s =
        some ((outcomes k).map fun _ => .left .null, s') ∧
      s'.calls = callsUpTo inner.name (.object type number arguments) k := by
  obtain ⟨s₁, hs₁, heq⟩ := iterate_reaches isA outcomes inner hp (poised_start inner hf hc) hfail hk
  obtain ⟨s₂, hround, hcalls⟩ := round_settles isA outcomes inner count hp hs₁ hsettled
  have htest := outcome_proceed (hostOf isA inner.name outcomes) hs₁.counter count
  rw [decide_eq_true (by omega)] at htest
  refine ⟨s₂, ?_, hcalls⟩
  rw [outcome_loop]
  cases hout : outcomes k with
  | ok value =>
      rw [hout] at hround
      simp [andThen, heq, iterate_left htest hround, Except.map]
  | error x =>
      rw [hout] at hround
      simp [andThen, heq, iterate_thrown htest hround, Except.map]

theorem loop_exhausted {count : Nat} (s : State X) (hp : inner.parameters = [])
    (hf : s.fields Runner.field = some (.object type number arguments)) (hc : s.calls = [])
    (hfail : ∀ j ≤ count, Fails isA spared (outcomes j)) :
    ∃ x s', outcomes count = .error x ∧
      (execAll (hostOf isA inner.name outcomes) none (loop inner count spared)).outcome s =
        some (.error x, s') ∧
      s'.calls = callsUpTo inner.name (.object type number arguments) count := by
  obtain ⟨s₁, hs₁, heq⟩ := iterate_reaches isA outcomes inner hp (poised_start inner hf hc)
    (fun j hj => hfail j (by omega)) (Nat.le_refl count)
  obtain ⟨x, hout, hx⟩ := (hfail count (Nat.le_refl count)).thrown
  obtain ⟨s₂, hround, hi, hkept, hcalls⟩ := round_fails_last isA outcomes inner hp hs₁ hout hx
  have htest := outcome_proceed (hostOf isA inner.name outcomes) hs₁.counter count
  rw [decide_eq_true (by omega)] at htest
  have hstop := outcome_proceed (hostOf isA inner.name outcomes) hi count
  rw [decide_eq_false (by omega)] at hstop
  have hend := (heq.trans (iterate_again htest hround)).trans (iterate_stop hstop)
  refine ⟨x, s₂, hout, ?_, hcalls⟩
  rw [outcome_loop]
  simp [andThen, hend, outcome_rethrow hkept]

end Loop

theorem write?_succ {count : Nat} (h : (Nat.repr (count + 1)).length ≤ 4300) :
    Numeral.write? ((count : Int) + 1) = some (Nat.repr (count + 1)) := by
  have habs : ((count : Int) + 1).natAbs = count + 1 := by omega
  have hsign : ¬ (count : Int) + 1 < 0 := by omega
  simp [Numeral.write?, Numeral.maxDigits, habs, hsign, h]

theorem run_of_parameterless {host : Host X} {m : Method} (hp : m.parameters = [])
    (fields : String → Option (Val X)) :
    m.run host fields [] =
      ((execAll host none m.statements).outcome { locals := fun _ => none, fields }).map
        fun (result, s) => (result.map Flow.value, s.calls) := by
  simp [Method.run, Method.parameterNames, hp]

-- The method is tried again after each failure until an attempt settles the test or the count is
-- used up. Only attempts before the last one are followed by the end of the scenario.
theorem wrap_run (isA : X → String → Bool) (outcomes : Nat → Except X (Val X))
    (name : String) (isPublic : Bool) (attributes : List (Slot Attribute))
    (description : Option String) (count : Nat) (spared : Option String)
    (hcount : (Nat.repr (count + 1)).length ≤ 4300)
    (fields : String → Option (Val X)) (type : String) (number : Nat) (arguments : List (Val X))
    (hfield : fields Runner.field = some (.object type number arguments)) :
    ∃ outer inner,
      (wrap { name, isPublic, attributes, description } count spared).result = .ok (outer, inner) ∧
      inner.name = name ++ "Internal" ∧
      (∀ k ≤ count, (∀ j < k, Fails isA spared (outcomes j)) → ¬ Fails isA spared (outcomes k) →
        outer.run (hostOf isA inner.name outcomes) fields [] =
          some ((outcomes k).map fun _ => .null,
            callsUpTo inner.name (.object type number arguments) k)) ∧
      ((∀ j ≤ count, Fails isA spared (outcomes j)) →
        ∃ x, outcomes count = .error x ∧
          outer.run (hostOf isA inner.name outcomes) fields [] =
            some (.error x, callsUpTo inner.name (.object type number arguments) count)) := by
  let inner : Method := { name := name ++ innerSuffix }
  let outer : Method :=
    { name, isPublic, attributes, description, statements := loop inner count spared }
  let start : State X := { locals := fun _ => none, fields }
  refine ⟨outer, inner, by rw [result_wrap, write?_succ hcount]; rfl, rfl, ?_, ?_⟩
  · intro k hk hfail hsettled
    obtain ⟨s', ho, hcalls⟩ :=
      loop_settled isA outcomes inner start rfl hfield rfl hfail hk hsettled
    rw [run_of_parameterless rfl, ho]
    cases hout : outcomes k <;> simp [Except.map, Flow.value, hcalls]
  · intro hfail
    obtain ⟨x, s', hx, ho, hcalls⟩ :=
      loop_exhausted isA outcomes inner start rfl hfield rfl hfail
    refine ⟨x, hx, ?_⟩
    rw [run_of_parameterless rfl, ho]
    simp [Except.map, hcalls]

-- Two failures and a third attempt that returns, with two retries.
theorem wrap_run_third_attempt :
    (Nat.repr (2 + 1)).length ≤ 4300 ∧
    ∃ outer inner,
      (wrap { name := "Login" } (2 : Nat) (some "KeyError")).result = .ok (outer, inner) ∧
      outer.run
          (hostOf (fun x type => type == "Exception" || x == type) inner.name
            fun n => if n < 2 then .error "ValueError" else .ok .null)
          (fun _ => some (.object "ITestRunner" 0 [])) [] =
        some (.ok .null, callsUpTo inner.name (.object "ITestRunner" 0 []) 2) := by
  refine ⟨by decide, ?_⟩
  obtain ⟨outer, inner, hwrap, -, hsettled, -⟩ := wrap_run
    (fun x type => type == "Exception" || x == type)
    (fun n => if n < 2 then .error "ValueError" else .ok .null) "Login" true [] none 2
    (some "KeyError") (by decide) (fun _ => some (.object "ITestRunner" 0 [])) "ITestRunner" 0 [] rfl
  refine ⟨outer, inner, hwrap, hsettled 2 (Nat.le_refl 2) ?_ (by simp [Fails])⟩
  intro j hj
  simp [hj, Fails, Kept, Spared]

end Rehearsal.Retry
