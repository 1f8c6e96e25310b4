import Rehearsal.Proofs.TestClass.Anatomy

namespace Rehearsal.TestClass

open Code Outline

-- A generator as it is made from settings, with a framework that does what it is asked.
structure Generator.IsStandard (g : Generator) : Prop where
  granted : g.framework.isContract = false
  policies : g.policies = policiesFor g.settings.kind

theorem Generator.isStandard_forUnittest (settings : Settings) :
    (forUnittest settings).IsStandard := ⟨rfl, rfl⟩

theorem Generator.ofSettings_some {settings : Settings} {framework : Framework} {g : Generator}
    (h : (ofSettings settings (some framework)).result = .ok g) :
    g = { settings, framework, policies := policiesFor settings.kind } := by
  simp only [ofSettings, pure_bind, Run.result_bind, Run.result_debug, Except.bind, Run.result_pure,
    Except.ok.injEq] at h
  exact h.symm

theorem Generator.policies_ofSettings {settings : Settings} {framework : Option Framework}
    {g : Generator} (h : (ofSettings settings framework).result = .ok g) :
    g.policies = policiesFor g.settings.kind := by
  cases framework with
  | none => rw [ofSettings_eq_ok h, forUnittest]
  | some framework => rw [ofSettings_some h]

-- A framework that is only a contract is refused before anything else.
theorem granted_of_generate {g : Generator} {feature : Feature} {name target : Option String}
    {out : Generated} (h : (generate g feature name target).result = .ok out) :
    g.framework.isContract = false := by
  obtain ⟨_, hgrant, -⟩ := Run.bind_eq_ok.mp h
  rw [Run.mapError_eq_ok, Run.result_ofExcept, Framework.grant] at hgrant
  by_contra hcontract
  rw [Bool.not_eq_false] at hcontract
  simp [hcontract] at hgrant

-- The module of a feature, given the methods that its elements add.
def moduleFor (g : Generator) (feature : Feature) (name target : Option String)
    (given : List Method) (ps : List Portion) : ModuleDecl :=
  let runtime : Import := { name := g.settings.runtimeNamespace, members := some ["*"] }
  let classShell := (shell g feature (orElse name (className feature))).mark
    (decorationFor g.settings.kind (feature.tags.map (·.name))).attributes
  { name := some (orElse target g.settings.defaultNamespace)
    imports := [runtime, frameworkImport]
    classes := [{ classShell with members := members g feature given ps }] }

-- Whether there is a module depends on the steps of the background and on the scenarios.
theorem generate_result {g : Generator} (hg : g.IsStandard) (feature : Feature)
    (name target : Option String) :
    (generate g feature name target).result =
      ((backgroundMethods feature).mapError .step).bind fun given =>
        (portions g feature (backgroundTables feature) feature.scenarios).result.map fun ps =>
          { source := moduleFor g feature name target given ps, rows := ps.flatMap (·.rows) } := by
  have hgrant : g.framework.grant = .ok () := by simp [Framework.grant, hg.granted]
  have hdecorate : (TagPolicy.decorate g.policies (feature.tags.map (·.name))).result =
      .ok (decorationFor g.settings.kind (feature.tags.map (·.name))) := by
    rw [hg.policies, decorate_policiesFor]
  unfold generate
  simp only [Run.result_bind, Run.result_mapError, Run.result_ofExcept, hgrant, hdecorate,
    Except.mapError, Except.bind, Run.result_info, Run.result_pure]
  cases backgroundMethods feature with
  | error fault => rfl
  | ok given =>
      cases (portions g feature (backgroundTables feature) feature.scenarios).result <;> rfl

theorem generate_eq_ok_iff {g : Generator} (hg : g.IsStandard) {feature : Feature}
    {name target : Option String} {out : Generated} :
    (generate g feature name target).result = .ok out ↔
      ∃ given ps, backgroundMethods feature = .ok given ∧
        (portions g feature (backgroundTables feature) feature.scenarios).result = .ok ps ∧
        out = { source := moduleFor g feature name target given ps
                rows := ps.flatMap (·.rows) } := by
  rw [generate_result hg]
  cases backgroundMethods feature with
  | error fault => simp [Except.mapError, Except.bind]
  | ok given =>
      cases (portions g feature (backgroundTables feature) feature.scenarios).result <;>
        simp [Except.mapError, Except.bind, Except.map, eq_comm]

theorem methods_moduleFor (g : Generator) (feature : Feature) (name target : Option String)
    (given : List Method) (ps : List Portion) :
    (moduleFor g feature name target given ps).classes.map (·.methods) =
      [lifecycle g.framework.traits g.settings.language feature ++ given ++
        ps.flatMap (·.methods)] :=
  congrArg (fun methods => [methods]) (methods_members g feature given ps)

section Framework

variable {g : Generator} (hg : g.IsStandard)
include hg

theorem decorated_eq_forUnittest : decorated g = decorated (.forUnittest g.settings) := by
  funext tags
  simp only [decorated, hg.policies, Generator.forUnittest]

-- The framework has no part in the test of a scenario that is no outline.
theorem plain_eq_forUnittest : plain g = plain (.forUnittest g.settings) := by
  have hdirective : directive g = directive (.forUnittest g.settings) := rfl
  funext feature before scenario
  simp only [plain, decorated_eq_forUnittest hg, hdirective]

-- Without row tests it has no part in outlines either.
theorem outline_eq_forUnittest (hrows : g.usesRows = false) :
    outline g = outline (.forUnittest g.settings) := by
  have hdirective : directive g = directive (.forUnittest g.settings) := rfl
  have hunittest : (Generator.forUnittest g.settings).usesRows = false := rfl
  have hvariants : variants g = variants (.forUnittest g.settings) := by
    funext scenario
    simp only [variants, variantsOf, variant, decorated_eq_forUnittest hg]
  funext feature before scenario
  simp only [outline, hdirective, hrows, hunittest, expanded, hvariants, Bool.false_eq_true,
    if_false]

theorem portions_eq_forUnittest (hrows : g.usesRows = false) (feature : Feature) (before : Nat)
    (scenarios : List Scenario) :
    portions g feature before scenarios =
      portions (.forUnittest g.settings) feature before scenarios := by
  induction scenarios generalizing before with
  | nil => rfl
  | cons scenario rest ih =>
      simp only [portions, portion, plain_eq_forUnittest hg, outline_eq_forUnittest hg hrows, ih]

end Framework

end Rehearsal.TestClass
