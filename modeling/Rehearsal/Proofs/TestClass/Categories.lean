import Rehearsal.Proofs.TestClass.Revision
import Rehearsal.Proofs.TestClass.Steps

namespace Rehearsal

namespace Retry

-- A tag that is one of the words for retries, or one of them with a value. A mark in front and the
-- case of letters do not count.
def IsDirective (tag : String) : Prop :=
  let name := Text.lower (TagName.plain tag)
  name = "retry".toList ∨ name = "retryexcept".toList ∨
    "retry:".toList <+: name ∨ "retryexcept:".toList <+: name

instance (tag : String) : Decidable (IsDirective tag) := by
  unfold IsDirective
  infer_instance

theorem expectedKey_countTag : TagName.expectedKey countTag = "retry".toList := by decide +kernel

theorem expectedKey_sparedTag : TagName.expectedKey sparedTag = "retryexcept".toList := by
  decide +kernel

theorem isSome_value?_iff {word tag : String} :
    (TagName.value? word tag).isSome ↔ TagName.expectedKey word ++ [':'] <+: TagName.key tag := by
  rw [← List.isPrefixOf_iff_prefix, TagName.value?]
  split <;> simp_all

-- A tag is hidden because of its name alone.
theorem isTag_iff_isDirective {tag : String} : isTag tag ↔ IsDirective tag := by
  have hcount : TagName.isDirective countTag tag ↔
      TagName.key tag = "retry".toList ∨ "retry:".toList <+: TagName.key tag := by
    rw [TagName.isDirective, Bool.or_eq_true, isSome_value?_iff, TagName.isMatch, beq_iff_eq,
      expectedKey_countTag]
    rfl
  have hspared : TagName.isDirective sparedTag tag ↔
      TagName.key tag = "retryexcept".toList ∨ "retryexcept:".toList <+: TagName.key tag := by
    rw [TagName.isDirective, Bool.or_eq_true, isSome_value?_iff, TagName.isMatch, beq_iff_eq,
      expectedKey_sparedTag]
    rfl
  rw [isTag, Bool.or_eq_true, hcount, hspared, or_or_or_comm, or_assoc, IsDirective]
  rfl

end Retry

namespace TestClass

open Code Outline

-- The tags that do not speak of retries.
def remaining (tags : List String) : List String := tags.filter fun tag => ¬ Retry.IsDirective tag

-- What the category attributes among some attributes list.
def categoriesOf (attributes : List (Slot Attribute)) : List (List Expr) :=
  attributes.filterMap fun slot =>
    (slot.value?.filter (·.name = "category")).map (·.arguments)

def skipsOf (attributes : List (Slot Attribute)) : Nat :=
  attributes.countP fun slot => slot.value?.any (·.name = "unittest.skip")

def isIgnored (tag : String) : Bool := Text.lower (TagName.plain tag) = "ignore".toList

-- What the tags of a class or of a test make of its attributes.
structure IsMarkedBy (tags : List String) (attributes : List (Slot Attribute)) : Prop where
  categories : categoriesOf attributes =
    if remaining tags = [] then [] else [(remaining tags).map text]
  skips : skipsOf attributes = tags.countP isIgnored
  -- No category has a value that says how often to try again or which exception to spare.
  unread : ∀ word ∈ [Retry.countTag, Retry.sparedTag], TagName.values word (remaining tags) = []
  alike : ∀ tag ∈ tags, Text.lower (TagName.plain tag) = "retrying".toList ∨
    "retryexceptions:".toList <+: Text.lower (TagName.plain tag) → tag ∈ remaining tags
  ignored : ∀ tag ∈ tags, isIgnored tag → tag ∈ remaining tags

-- How the methods of a scenario are marked. Those that tests call are not.
inductive Marks (feature : Feature) (scenario : Scenario) : List Method → Prop where
  | plain {test : Method}
      (single : scenario.isOutline = false)
      (once : Retry.directive? scenario (some feature) = none)
      (name : test.name = methodName scenario)
      (marked : IsMarkedBy (scenario.tags.map (·.name)) test.attributes) :
      Marks feature scenario [test]
  | retried {outer inner : Method} {d : Retry.Directive}
      (single : scenario.isOutline = false)
      (again : Retry.directive? scenario (some feature) = some d)
      (name : outer.name = methodName scenario)
      (innerName : inner.name = methodName scenario ++ "Internal")
      (marked : IsMarkedBy (scenario.tags.map (·.name)) outer.attributes)
      (bare : inner.attributes = []) :
      Marks feature scenario [outer, inner]
  | outline {template : Method} {variants : List (List Method)}
      (several : scenario.isOutline)
      (name : template.name = methodName scenario)
      (bare : template.attributes = [])
      (marked : List.Forall₂
        (fun examples tests => List.Forall₂
          (fun _ test =>
            IsMarkedBy ((scenario.tags ++ examples.tags).map (·.name)) test.attributes)
          examples.rows tests)
        scenario.examples variants) :
      Marks feature scenario (template :: variants.flatten)

theorem shownTags_retry (tags : List String) : shownTags .retry tags = remaining tags := by
  apply List.filter_congr
  intro tag _
  by_cases h : Retry.IsDirective tag
  · simp [h, Retry.isTag_iff_isDirective.mpr h]
  · simp [h, Bool.eq_false_iff.mpr (mt Retry.isTag_iff_isDirective.mp h)]

theorem isMatch_ignore (tag : String) : TagName.isMatch "ignore" tag = isIgnored tag := by
  have hkey : TagName.expectedKey "ignore" = "ignore".toList := by decide +kernel
  rw [TagName.isMatch, hkey, isIgnored, TagName.key, beq_eq_decide]

theorem values_remaining {word : String} (h : word ∈ [Retry.countTag, Retry.sparedTag])
    (tags : List String) : TagName.values word (remaining tags) = [] := by
  rw [TagName.values, List.filterMap_eq_nil_iff]
  intro tag htag
  have hother : ¬ Retry.IsDirective tag := by simpa using (List.mem_filter.mp htag).2
  rw [← Option.not_isSome_iff_eq_none, Retry.isSome_value?_iff]
  intro hvalue
  apply hother
  rw [List.mem_pair] at h
  obtain rfl | rfl := h
  · rw [Retry.expectedKey_countTag] at hvalue
    exact .inr (.inr (.inl hvalue))
  · rw [Retry.expectedKey_sparedTag] at hvalue
    exact .inr (.inr (.inr hvalue))

theorem mem_remaining {tag : String} {tags : List String} :
    tag ∈ remaining tags ↔ tag ∈ tags ∧ ¬ Retry.IsDirective tag := by
  simp [remaining]

theorem not_isDirective_of_alike {tag : String}
    (h : Text.lower (TagName.plain tag) = "retrying".toList ∨
      "retryexceptions:".toList <+: Text.lower (TagName.plain tag)) :
    ¬ Retry.IsDirective tag := by
  unfold Retry.IsDirective
  dsimp only
  obtain hname | ⟨rest, hname⟩ := h
  · rw [hname]
    decide
  · rw [← hname]
    simp [List.cons_prefix_cons]

example : remaining ["@Ignore", "RetryExceptions:X", "retryexcept", "@RETRY:2", "Retrying"] =
    ["@Ignore", "RetryExceptions:X", "Retrying"] := by decide +kernel

theorem isMarkedBy_attributes (tags : List String) :
    IsMarkedBy tags (decorationFor .retry tags).attributes where
  categories := by
    have hskips : ∀ skips, categoriesOf (List.replicate skips (.of skipAttribute)) = [] := by
      intro skips
      simp [categoriesOf, Slot.value?, skipAttribute]
    rw [Decoration.attributes, categoriesOf, List.filterMap_append, ← categoriesOf, hskips,
      List.nil_append]
    simp only [decorationFor, shownTags_retry, List.isEmpty_iff]
    split <;> rfl
  skips := by
    have hcategories : ∀ tags : List String,
        skipsOf (if tags.isEmpty then [] else [.of (categoryAttribute tags)]) = 0 := by
      intro tags
      split <;> rfl
    have hskips : ∀ skips, skipsOf (List.replicate skips (.of skipAttribute)) = skips := by
      intro skips
      simp [skipsOf, List.countP_replicate, Slot.value?, skipAttribute]
    rw [Decoration.attributes, skipsOf, List.countP_append, ← skipsOf, ← skipsOf, hcategories,
      hskips, Nat.add_zero, decorationFor]
    exact List.countP_congr fun tag _ => by rw [isMatch_ignore]
  unread := fun word hword => values_remaining hword tags
  alike := fun tag htag halike => mem_remaining.mpr ⟨htag, not_isDirective_of_alike halike⟩
  ignored := by
    intro tag htag hignored
    rw [← isMatch_ignore] at hignored
    exact mem_remaining.mpr
      ⟨htag, mt Retry.isTag_iff_isDirective.mpr (ignore_not_retry hignored)⟩

theorem IsPortion.marks {feature : Feature} {before : Nat} {scenario : Scenario} {p : Portion}
    (h : IsPortion .retry feature before scenario p) : Marks feature scenario p.methods := by
  cases h with
  | plain single once _ => exact .plain single once rfl (isMarkedBy_attributes _)
  | retried single again _ _ =>
      exact .retried single again rfl rfl (isMarkedBy_attributes _) rfl
  | outline several _ _ _ rows =>
      refine .outline several rfl rfl (forall₂_examples rows ?_)
      rintro set tests ⟨-, htests⟩
      exact htests.forall₂_rows fun _ _ _ => isMarkedBy_attributes _

theorem categoriesOf_lifecycle (traits : Traits) (language : Language) (feature : Feature) :
    ∀ m ∈ lifecycle traits language feature, categoriesOf m.attributes = [] := by
  simp only [lifecycle, List.forall_mem_cons]
  exact ⟨rfl, rfl, rfl, rfl, rfl, rfl, by simp⟩

theorem categoriesOf_background {feature : Feature} {given : List Method}
    (h : backgroundMethods feature = .ok given) : ∀ m ∈ given, categoriesOf m.attributes = [] := by
  rw [backgroundMethods_eq_ok] at h
  cases hb : feature.background with
  | none => simp_all
  | some value =>
      simp only [hb] at h
      obtain ⟨statements, -, rfl⟩ := h
      exact List.forall_mem_singleton.mpr rfl

-- The categories of the class and of each test are its tags in order, without those that speak of
-- retries.
theorem generate_marks {settings : Settings} (hkind : settings.kind = .retry) {g : Generator}
    (hg : (Generator.ofSettings settings none).result = .ok g) {feature : Feature}
    {name target : Option String} {out : Generated}
    (hout : (generate g feature name target).result = .ok out) :
    ∃ c given blocks, out.source.classes = [c] ∧
      c.methods = lifecycle {} settings.language feature ++ given ++ blocks.flatten ∧
      IsMarkedBy (feature.tags.map (·.name)) c.attributes ∧
      List.Forall₂ (Marks feature) feature.scenarios blocks ∧
      ∀ m ∈ lifecycle {} settings.language feature ++ given, categoriesOf m.attributes = [] := by
  cases Generator.ofSettings_eq_ok hg
  obtain ⟨given, ps, hgiven, -, hps, rfl⟩ := generate_eq_ok.mp hout
  have hmethods := methods_classOf settings feature (orElse name (className feature)) given ps
  refine ⟨_, given, ps.map (·.methods), rfl, ?_, ?_, ?_, ?_⟩
  · rw [hmethods, List.flatMap_def]
  · have hclass : (classOf settings feature (orElse name (className feature)) given ps).attributes =
        (decorationFor .retry (feature.tags.map (·.name))).attributes := by
      simp only [classOf, ClassDecl.mark, attributes_shell, List.nil_append, hkind]
    rw [hclass]
    exact isMarkedBy_attributes _
  · rw [List.forall₂_map_right_iff]
    rw [hkind] at hps
    exact forall₂_scenarios hps fun _ _ _ _ hp => hp.marks
  · rw [List.forall_mem_append]
    exact ⟨categoriesOf_lifecycle _ _ _, categoriesOf_background hgiven⟩

def harbour : Feature :=
  { name := "Harbour"
    tags := [{ name := "port" }, { name := "@retry" }, { name := "port" }]
    scenarios := [
      { name := "Dock"
        tags := [{ name := "RETRY:2" }, { name := "Retrying" }, { name := "RetryExcept:Storm" }]
        steps := [{ keyword := some "When ", role := .action, text := some "docking" }] },
      { name := "Load"
        tags := [{ name := "@Ignore" }]
        steps := [{ keyword := some "Then ", role := .outcome, text := some "<n> crates" }]
        examples := [
          { header := some [some "n"], rows := [[some "1"]]
            tags := [{ name := "RetryExceptions:X" }, { name := "retryexcept" }] }] }] }

theorem generate_marks_harbour : ∃ g out,
    (Generator.ofSettings {} none).result = .ok g ∧
    (generate g harbour none none).result = .ok out ∧
    ∃ c given blocks, out.source.classes = [c] ∧
      c.methods = lifecycle {} .python harbour ++ given ++ blocks.flatten ∧
      IsMarkedBy ["port", "@retry", "port"] c.attributes ∧
      List.Forall₂ (Marks harbour) harbour.scenarios blocks ∧
      ∀ m ∈ lifecycle {} .python harbour ++ given, categoriesOf m.attributes = [] := by
  refine ⟨_, _, rfl, rfl, ?_⟩
  exact @generate_marks {} rfl _ rfl harbour none none _ rfl

end TestClass

end Rehearsal
