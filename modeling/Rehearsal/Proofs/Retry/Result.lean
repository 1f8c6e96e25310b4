import Rehearsal.Proofs.Log.Result
import Rehearsal.Retry.Directive
import Rehearsal.Retry.Loop

namespace Rehearsal.Retry

theorem result_choose {ε α : Type} (tag : String) (read? : String → Option α)
    (values : List (Scope × String)) :
    (choose tag read? values : Run ε (Option α)).result =
      .ok (values.findSome? fun value => read? value.2) := by
  induction values with
  | nil => rfl
  | cons first rest ih =>
      obtain ⟨scope, value⟩ := first
      cases h : read? value <;> simp [choose, h, ih, Except.bind]

-- The directive of a scenario, without what is logged on the way to it.
def directive? (scenario : Scenario) (feature : Option Feature) : Option Directive :=
  ((candidates countTag (scopes scenario feature)).findSome? fun value => count? value.2).map
    fun count =>
      { count
        spared := (candidates sparedTag (scopes scenario feature)).findSome? fun value =>
          exceptionName? value.2 }

theorem result_resolve {ε : Type} (scenario : Scenario) (feature : Option Feature) :
    (resolve scenario feature : Run ε (Option Directive)).result = .ok (directive? scenario feature) := by
  rw [resolve, Run.result_bind, result_choose]
  cases h : (candidates countTag (scopes scenario feature)).findSome? fun value => count? value.2 <;>
    simp [directive?, h, Except.bind, Except.map, result_choose]

-- The inner method has the name and the parameters of the outer one, and nothing else yet.
def innerOf (method : Code.Method) : Code.Method :=
  { name := method.name ++ innerSuffix, parameters := method.parameters }

theorem result_wrap (method : Code.Method) (count : Int) (spared : Option String) :
    (wrap method count spared).result =
      if (Numeral.write? (count + 1)).isSome then
        .ok ({ method with
          statements := method.statements ++ loop (innerOf method) count spared }, innerOf method)
      else .error {} := by
  cases h : Numeral.write? (count + 1) <;> simp [wrap, h, innerOf, Except.map]

end Rehearsal.Retry
