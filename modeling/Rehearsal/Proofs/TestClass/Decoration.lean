import Rehearsal.Proofs.Log.Result
import Rehearsal.TestClass.Generate

namespace Rehearsal

namespace TagPolicy

-- The tags one by one: what the policies say of each is put together in order.
theorem decorateFrom_result {policies : List TagPolicy} {verdict : String → Verdict}
    (h : ∀ tag, judge tag {} policies = .ok (verdict tag)) (decoration : Decoration)
    (tags : List String) :
    (decorateFrom policies decoration tags).result = .ok
      { categories := decoration.categories ++ tags.filter fun tag => !(verdict tag).hidden
        skips := tags.foldl (fun skips tag => skips + (verdict tag).skips) decoration.skips
        notes := decoration.notes ++ tags.flatMap fun tag => (verdict tag).notes } := by
  induction tags generalizing decoration with
  | nil => simp [decorateFrom]
  | cons tag rest ih =>
      by_cases hidden : (verdict tag).hidden <;>
        simp [decorateFrom, h, ih, hidden, Except.bind]

end TagPolicy

namespace TestClass

open Code

-- What a generator of some kind makes of one tag.
def verdictFor (kind : Kind) (tag : String) : TagPolicy.Verdict :=
  if kind = .retry ∧ Retry.isTag tag then { hidden := true }
  else { skips := if TagName.isMatch "ignore" tag then 1 else 0 }

theorem judge_policiesFor (kind : Kind) (tag : String) :
    TagPolicy.judge tag {} (Generator.policiesFor kind) = .ok (verdictFor kind tag) := by
  cases kind with
  | plain =>
      have hpolicies : Generator.policiesFor .plain = [TagPolicy.ignore] := rfl
      cases h : TagName.isMatch "ignore" tag <;>
        simp [hpolicies, TagPolicy.judge, TagPolicy.ignore, TagPolicy.record, verdictFor, h]
  | retry =>
      have hpolicies : Generator.policiesFor .retry = [TagPolicy.retry, TagPolicy.ignore] := rfl
      cases hr : Retry.isTag tag <;> cases h : TagName.isMatch "ignore" tag <;>
        simp [hpolicies, TagPolicy.judge, TagPolicy.retry, TagPolicy.ignore, TagPolicy.record,
          verdictFor, hr, h]

theorem ignore_not_retry {tag : String} (h : TagName.isMatch "ignore" tag) : ¬ Retry.isTag tag := by
  have hkey : TagName.key tag = TagName.expectedKey "ignore" := by simpa [TagName.isMatch] using h
  have hignore : TagName.expectedKey "ignore" = "ignore".toList := by decide +kernel
  have hretry : TagName.expectedKey "Retry" = "retry".toList := by decide +kernel
  have hexcept : TagName.expectedKey "RetryExcept" = "retryexcept".toList := by decide +kernel
  simp [Retry.isTag, Retry.countTag, Retry.sparedTag, TagName.isDirective, TagName.isMatch,
    TagName.value?, hkey, hignore, hretry, hexcept]

-- The tags that become categories.
def shownTags (kind : Kind) (tags : List String) : List String :=
  match kind with
  | .plain => tags
  | .retry => tags.filter fun tag => !Retry.isTag tag

def decorationFor (kind : Kind) (tags : List String) : Decoration :=
  { categories := shownTags kind tags, skips := tags.countP (TagName.isMatch "ignore") }

theorem filter_verdictFor (kind : Kind) (tags : List String) :
    tags.filter (fun tag => !(verdictFor kind tag).hidden) = shownTags kind tags := by
  cases kind with
  | plain => simp [verdictFor, shownTags]
  | retry =>
      apply List.filter_congr
      intro tag _
      by_cases hr : Retry.isTag tag <;> simp [verdictFor, hr]

theorem skips_verdictFor (kind : Kind) (tag : String) :
    (verdictFor kind tag).skips = if TagName.isMatch "ignore" tag then 1 else 0 := by
  by_cases hr : kind = .retry ∧ Retry.isTag tag
  · have hno : ¬ TagName.isMatch "ignore" tag := fun h => ignore_not_retry h hr.2
    simp [verdictFor, hr, hno]
  · simp only [verdictFor, hr, if_false]

theorem foldl_skips_verdictFor (kind : Kind) (skips : Nat) (tags : List String) :
    tags.foldl (fun skips tag => skips + (verdictFor kind tag).skips) skips =
      skips + tags.countP (TagName.isMatch "ignore") := by
  induction tags generalizing skips with
  | nil => rfl
  | cons tag rest ih =>
      rw [List.foldl_cons, ih, skips_verdictFor, List.countP_cons]
      omega

-- Every ignored tag asks for one skip, whatever else becomes of it.
theorem decorate_policiesFor (kind : Kind) (tags : List String) :
    (TagPolicy.decorate (Generator.policiesFor kind) tags).result =
      .ok (decorationFor kind tags) := by
  have hnotes : ∀ tag, (verdictFor kind tag).notes = [] := by
    intro tag
    by_cases hr : kind = .retry ∧ Retry.isTag tag <;> simp [verdictFor, hr]
  rw [TagPolicy.decorate, TagPolicy.decorateFrom_result (judge_policiesFor kind)]
  simp [decorationFor, filter_verdictFor, foldl_skips_verdictFor, hnotes]

end TestClass

end Rehearsal
