import Rehearsal.Proofs.TestClass.Anatomy

namespace Rehearsal.TestClass

open Code Outline

def isDirectiveText : Expr → Bool
  | .literal (.text tag) => Retry.isTag tag
  | _ => false

-- A category attribute without its retry directives. Nothing is left of one that has no other
-- tags.
def withoutDirectives : Slot Attribute → Option (Slot Attribute)
  | .of a =>
      if a.name = "category" then
        let rest := a.arguments.filter fun tag => !isDirectiveText tag
        if rest.isEmpty then none else some (.of { a with arguments := rest })
      else some (.of a)
  | slot => some slot

def hideDirectives (attributes : List (Slot Attribute)) : List (Slot Attribute) :=
  attributes.filterMap withoutDirectives

def hideInMethod (m : Method) : Method := { m with attributes := hideDirectives m.attributes }

def hideInMember : Member → Member
  | .method m => .method (hideInMethod m)
  | member => member

-- The test of a scenario with a directive gives its body away to an inner method, and calls that
-- in a loop.
def reviseTest (directive : Option Retry.Directive) (m : Method) : List Method :=
  match directive with
  | none => [hideInMethod m]
  | some d =>
      let inner : Method :=
        { name := m.name ++ "Internal", parameters := m.parameters, statements := m.statements }
      [{ hideInMethod m with statements := Retry.loop inner d.count d.spared }, inner]

-- A template, and a test for each row of the examples.
def outlineSize (scenario : Scenario) : Nat :=
  1 + (scenario.examples.flatMap (·.rows)).length

-- Goes through the members that the scenarios added, and leaves those after them as they are.
def reviseMembers (feature : Feature) : List Scenario → List Member → List Member
  | [], members => members
  | scenario :: rest, members =>
      if scenario.isOutline then
        (members.take (outlineSize scenario)).map hideInMember ++
          reviseMembers feature rest (members.drop (outlineSize scenario))
      else
        match members with
        | .method m :: others =>
            (reviseTest (Retry.directive? scenario (some feature)) m).map .method ++
              reviseMembers feature rest others
        | others => others

-- The runner's field, the six methods of the life cycle and the background come first.
def frontSize (feature : Feature) : Nat := if feature.background.isSome then 8 else 7

def reviseClass (feature : Feature) (c : ClassDecl) : ClassDecl :=
  { c with
    attributes := hideDirectives c.attributes
    members := c.members.take (frontSize feature) ++
      reviseMembers feature feature.scenarios (c.members.drop (frontSize feature)) }

-- A module as it is with retries, made from the one without them.
def revise (feature : Feature) (m : ModuleDecl) : ModuleDecl :=
  { m with classes := m.classes.map (reviseClass feature) }

theorem filter_isDirectiveText (tags : List String) :
    (tags.map text).filter (fun tag => !isDirectiveText tag) =
      (tags.filter fun tag => !Retry.isTag tag).map text := by
  rw [List.filter_map]
  rfl

theorem hideDirectives_attributes (tags : List String) :
    hideDirectives (decorationFor .plain tags).attributes =
      (decorationFor .retry tags).attributes := by
  have hskip : withoutDirectives (.of skipAttribute) = some (.of skipAttribute) := rfl
  have hskips : ∀ n, (List.replicate n (.of skipAttribute)).filterMap withoutDirectives =
      List.replicate n (.of skipAttribute) := by
    intro n
    simp [List.filterMap_replicate_of_some hskip]
  simp only [hideDirectives, Decoration.attributes, decorationFor, shownTags,
    List.filterMap_append, hskips]
  congr 1
  by_cases hnone : tags = []
  · simp [hnone]
  · by_cases hrest : tags.filter (fun tag => !Retry.isTag tag) = [] <;>
      simp [hnone, withoutDirectives, categoryAttribute, filter_isDirectiveText, hrest]

theorem hideInMethod_test (scenario : Scenario) (statements : List Stmt) :
    hideInMethod { testMethod .plain scenario with statements } =
      { testMethod .retry scenario with statements } := by
  simp [hideInMethod, testMethod, hideDirectives_attributes]

theorem hideInMethod_variant (scenario : Scenario) (examples : Examples) (set : Option String)
    (name : String) (row : List (Option String)) :
    hideInMethod (variantMethod .plain scenario examples set name row) =
      variantMethod .retry scenario examples set name row := by
  simp [hideInMethod, variantMethod, hideDirectives_attributes]

-- The tests of one set of examples with and without retries.
theorem IsVariants.revised {scenario : Scenario} {set : Examples × Option String}
    {us rs : List Method} (hu : IsVariants .plain scenario set us)
    (hr : IsVariants .retry scenario set rs) :
    rs = us.map hideInMethod ∧ us.length = set.1.rows.length := by
  obtain ⟨names, hnames, rfl⟩ := hu
  obtain ⟨others, hothers, rfl⟩ := hr
  cases hnames.symm.trans hothers
  refine ⟨?_, by simp [length_namesOf hnames]⟩
  rw [List.map_map]
  apply List.map_congr_left
  rintro ⟨name, row⟩ _
  exact (hideInMethod_variant ..).symm

theorem variants_revised {scenario : Scenario} {sets : List (Examples × Option String)}
    {us rs : List (List Method)} (hu : List.Forall₂ (IsVariants .plain scenario) sets us)
    (hr : List.Forall₂ (IsVariants .retry scenario) sets rs) :
    rs.flatten = us.flatten.map hideInMethod ∧
      us.flatten.length = (sets.flatMap (·.1.rows)).length := by
  induction hu generalizing rs with
  | nil =>
      cases hr
      exact ⟨rfl, rfl⟩
  | cons hfirst _ ih =>
      obtain _ | ⟨hr, hothers⟩ := hr
      obtain ⟨rfl, hlen⟩ := hfirst.revised hr
      obtain ⟨hrest, hlens⟩ := ih hothers
      refine ⟨by simp [hrest], ?_⟩
      rw [List.flatten_cons, List.flatMap_cons, List.length_append, List.length_append, hlen, hlens]

theorem reviseMembers_test {feature : Feature} {scenario : Scenario}
    (h : scenario.isOutline = false) (scenarios : List Scenario) (m : Method)
    (tail : List Member) :
    reviseMembers feature (scenario :: scenarios) (.method m :: tail) =
      (reviseTest (Retry.directive? scenario (some feature)) m).map .method ++
        reviseMembers feature scenarios tail := by
  simp [reviseMembers, h]

theorem reviseMembers_outline {feature : Feature} {scenario : Scenario} {front : List Member}
    (h : scenario.isOutline) (hlen : front.length = outlineSize scenario)
    (scenarios : List Scenario) (tail : List Member) :
    reviseMembers feature (scenario :: scenarios) (front ++ tail) =
      front.map hideInMember ++ reviseMembers feature scenarios tail := by
  simp [reviseMembers, h, ← hlen]

-- What a scenario adds without retries is revised to what it adds with them.
theorem IsPortion.revised {feature : Feature} {before : Nat} {scenario : Scenario} {u r : Portion}
    (hu : IsPortion .plain feature before scenario u)
    (hr : IsPortion .retry feature before scenario r) (scenarios : List Scenario)
    (tail : List Member) :
    reviseMembers feature (scenario :: scenarios) (u.methods.map .method ++ tail) =
      r.methods.map .method ++ reviseMembers feature scenarios tail ∧
    r.tests = u.tests := by
  cases hu with
  | retried _ again => simp [directiveFor] at again
  | plain single _ hbody =>
      refine ⟨?_, ?_⟩
      · rw [List.map_singleton, List.singleton_append, reviseMembers_test single]
        congr 1
        cases hr with
        | plain _ once hbody' =>
            cases hbody.symm.trans hbody'
            simp only [directiveFor, if_true] at once
            simp [once, reviseTest, hideInMethod_test]
        | retried _ again _ hbody' =>
            cases hbody.symm.trans hbody'
            simp only [directiveFor, if_true] at again
            simp only [again, reviseTest, hideInMethod_test]
            rfl
        | outline several => simp [single] at several
      · cases hr with
        | outline several => simp [single] at several
        | _ => rfl
  | outline several agreed named hbody hus =>
      cases hr with
      | plain single => simp [several] at single
      | retried single => simp [several] at single
      | outline _ agreed' named' hbody' hrs =>
          cases agreed.symm.trans agreed'
          cases named.symm.trans named'
          cases hbody.symm.trans hbody'
          obtain ⟨heq, hlen⟩ := variants_revised hus hrs
          rw [flatMap_zip_setIdentifiers] at hlen
          refine ⟨?_, by simp only [heq, List.map_map]; rfl⟩
          rw [reviseMembers_outline several
            (by rw [List.length_map, List.length_cons, hlen, outlineSize, Nat.add_comm])]
          congr 1
          simp only [heq, List.map_cons, List.map_map]
          rfl

theorem portions_revised {feature : Feature} {before : Nat} {scenarios : List Scenario}
    {us rs : List Portion}
    (hu : List.Forall₂ (fun place p => IsPortion .plain feature place.1 place.2 p)
      (numbered before scenarios) us)
    (hr : List.Forall₂ (fun place p => IsPortion .retry feature place.1 place.2 p)
      (numbered before scenarios) rs) (tail : List Member) :
    reviseMembers feature scenarios ((us.flatMap (·.methods)).map .method ++ tail) =
      (rs.flatMap (·.methods)).map .method ++ tail ∧
    rs.flatMap (·.tests) = us.flatMap (·.tests) := by
  induction scenarios generalizing before us rs with
  | nil =>
      cases hu
      cases hr
      exact ⟨rfl, rfl⟩
  | cons scenario rest ih =>
      obtain _ | ⟨hfirst, hothers⟩ := hu
      obtain _ | ⟨hfirst', hothers'⟩ := hr
      obtain ⟨hmembers, htests⟩ := ih hothers hothers'
      obtain ⟨hm, ht⟩ := hfirst.revised hfirst' rest _
      simp only [List.flatMap_cons, List.map_append, List.append_assoc]
      rw [hm, hmembers, ht, htests]
      exact ⟨rfl, rfl⟩

theorem length_backgroundMethods {feature : Feature} {given : List Method}
    (h : backgroundMethods feature = .ok given) :
    given.length = if feature.background.isSome then 1 else 0 := by
  rw [backgroundMethods_eq_ok] at h
  cases hb : feature.background with
  | none =>
      simp only [hb] at h
      simp [h]
  | some _ =>
      simp only [hb] at h
      obtain ⟨_, -, rfl⟩ := h
      rfl

theorem attributes_shell (g : Generator) (feature : Feature) (name : String) :
    (shell g feature name).attributes = [] := by
  unfold shell
  dsimp only
  split <;> rfl

theorem reviseClass_classOf {settings : Settings} {feature : Feature} {name : String}
    {given : List Method} {us rs : List Portion} (hgiven : backgroundMethods feature = .ok given)
    (hu : List.Forall₂ (fun place p => IsPortion .plain feature place.1 place.2 p)
      (numbered (backgroundTables feature) feature.scenarios) us)
    (hr : List.Forall₂ (fun place p => IsPortion .retry feature place.1 place.2 p)
      (numbered (backgroundTables feature) feature.scenarios) rs) :
    reviseClass feature (classOf { settings with kind := .plain } feature name given us) =
      classOf { settings with kind := .retry } feature name given rs := by
  obtain ⟨hmembers, htests⟩ := portions_revised hu hr (aliases frame (us.flatMap (·.tests)))
  have hfront : ∀ ps : List Portion,
      members (.forUnittest { settings with kind := .plain }) feature given ps =
        (runnerField :: (lifecycle {} settings.language feature ++ given).map .method) ++
          ((ps.flatMap (·.methods)).map .method ++ aliases frame (ps.flatMap (·.tests))) := by
    intro ps
    simp [members, Generator.forUnittest, Framework.unittest]
  have hsize : (runnerField :: (lifecycle {} settings.language feature ++ given).map
      Member.method).length = frontSize feature := by
    simp only [List.length_cons, List.length_map, List.length_append, lifecycle,
      List.length_nil, length_backgroundMethods hgiven, frontSize]
    split <;> rfl
  have hrevised : (members (.forUnittest { settings with kind := .plain }) feature given us).take
        (frontSize feature) ++
      reviseMembers feature feature.scenarios
        ((members (.forUnittest { settings with kind := .plain }) feature given us).drop
          (frontSize feature)) =
      members (.forUnittest { settings with kind := .retry }) feature given rs := by
    rw [hfront us, ← hsize, List.take_left, List.drop_left, hmembers, ← htests, ← hfront rs]
    rfl
  simp only [reviseClass, classOf, hrevised, ClassDecl.mark, attributes_shell, List.nil_append,
    hideDirectives_attributes]
  rfl

-- Generation with retries is generation without them, revised.
theorem generate_retry_eq_revise (settings : Settings) {gu gr : Generator}
    (hgu : (Generator.ofSettings { settings with kind := .plain } none).result = .ok gu)
    (hgr : (Generator.ofSettings { settings with kind := .retry } none).result = .ok gr)
    {feature : Feature} {name target : Option String} {u r : Generated}
    (hu : (generate gu feature name target).result = .ok u)
    (hr : (generate gr feature name target).result = .ok r) :
    r.source = revise feature u.source ∧ r.rows = u.rows := by
  cases Generator.ofSettings_eq_ok hgu
  cases Generator.ofSettings_eq_ok hgr
  obtain ⟨given, us, hgiven, -, hus, rfl⟩ := generate_eq_ok.mp hu
  obtain ⟨given', rs, hgiven', -, hrs, rfl⟩ := generate_eq_ok.mp hr
  cases hgiven.symm.trans hgiven'
  refine ⟨?_, rfl⟩
  simp only [revise, moduleOf, List.map_singleton]
  rw [reviseClass_classOf hgiven hus hrs]

def flaky : Feature :=
  { name := "Login"
    tags := [⟨"web", 1⟩]
    background := some { steps := [{ keyword := some "Given ", role := .given, text := some "a user" }] }
    scenarios := [
      { name := "Sign in"
        tags := [⟨"Retry:2", 4⟩, ⟨"smoke", 4⟩]
        steps := [{ keyword := some "When ", role := .action, text := some "signing in" }] },
      { name := "Sign out" }] }

theorem generate_flaky_retry_eq_revise : ∃ gu gr u r,
    (Generator.ofSettings { kind := .plain } none).result = .ok gu ∧
    (Generator.ofSettings { kind := .retry } none).result = .ok gr ∧
    (generate gu flaky none none).result = .ok u ∧
    (generate gr flaky none none).result = .ok r ∧
    r.source = revise flaky u.source ∧ r.rows = u.rows :=
  ⟨_, _, _, _, rfl, rfl, rfl, rfl, generate_retry_eq_revise {} rfl rfl rfl rfl⟩

end Rehearsal.TestClass
