import Rehearsal.Proofs.Retry.Result
import Rehearsal.Proofs.TestClass.Decoration

namespace Rehearsal.TestClass

open Code Outline

-- The generator for settings that name the framework.
def Generator.forUnittest (settings : Settings) : Generator :=
  { settings, framework := .unittest, policies := policiesFor settings.kind }

theorem Generator.ofSettings_eq_ok {settings : Settings} {g : Generator}
    (h : (ofSettings settings none).result = .ok g) : g = forUnittest settings := by
  obtain ⟨framework, hf, h⟩ := Run.bind_eq_ok.mp h
  have hunittest : framework = .unittest := by
    simp only [Run.result_ofExcept, namedFramework, Framework.named?] at hf
    by_cases hn : lowered settings.framework = "unittest" <;> simp_all
  subst hunittest
  obtain ⟨-, -, h⟩ := Run.bind_eq_ok.mp h
  exact (Except.ok.inj h).symm

def directiveFor (kind : Kind) (feature : Feature) (scenario : Scenario) :
    Option Retry.Directive :=
  if kind = .retry then Retry.directive? scenario (some feature) else none

@[simp] theorem result_directive (settings : Settings) (feature : Feature) (scenario : Scenario) :
    (directive (.forUnittest settings) feature scenario).result =
      .ok (directiveFor settings.kind feature scenario) := by
  by_cases h : settings.kind = .retry <;>
    simp [directive, Generator.retries, Generator.forUnittest, directiveFor, h,
      Retry.result_resolve]

@[simp] theorem result_decorated (settings : Settings) (tags : List Tag) :
    (decorated (.forUnittest settings) tags).result =
      .ok (decorationFor settings.kind (tags.map (·.name))).attributes := by
  simp [decorated, Generator.forUnittest, decorate_policiesFor, Except.mapError, Except.map]

-- The test of a scenario, without its body.
def testMethod (kind : Kind) (scenario : Scenario) : Method :=
  { name := methodName scenario, description := some scenario.name
    attributes := (decorationFor kind (scenario.tags.map (·.name))).attributes }

def variantMethod (kind : Kind) (scenario : Scenario) (examples : Examples)
    (set : Option String) (name : String) (row : List (Option String)) : Method :=
  { name := variantMethodName scenario set name
    description := some (scenario.name ++ ": " ++ name)
    attributes :=
      (decorationFor kind ((scenario.tags ++ examples.tags).map (·.name))).attributes
    statements :=
      [invokeThis (methodName scenario)
        (row.map textOrNull ++ [tagArray (examples.tags.map (·.name))])] }

theorem length_setIdentifiers (sets : List Examples) :
    (setIdentifiers sets).length = sets.length := by
  unfold setIdentifiers
  split
  · rfl
  · dsimp only
    split <;> simp

theorem length_variantNames (first : List String) : (variantNames first).length = first.length := by
  unfold variantNames
  dsimp only
  split <;> simp

theorem length_of_mapM_eq_some {α β : Type} {f : α → Option β} {as : List α} {bs : List β}
    (h : as.mapM f = some bs) : bs.length = as.length := by
  induction as generalizing bs with
  | nil => simp_all
  | cons a rest ih =>
      simp only [List.mapM_cons, Option.bind_eq_bind, Option.bind_eq_some_iff] at h
      obtain ⟨b, -, others, hothers, heq⟩ := h
      cases heq
      simp [ih hothers]

theorem length_namesOf {examples : Examples} {names : List String}
    (h : namesOf examples = .ok names) : names.length = examples.rows.length := by
  unfold namesOf at h
  cases hfirst : examples.rows.mapM firstCell? with
  | none => simp [hfirst] at h
  | some first =>
      simp only [hfirst, Except.ok.injEq] at h
      rw [← h, length_variantNames, length_of_mapM_eq_some hfirst]

theorem map_fst_zip_setIdentifiers (sets : List Examples) :
    (sets.zip (setIdentifiers sets)).map Prod.fst = sets :=
  List.map_fst_zip (Nat.le_of_eq (length_setIdentifiers sets).symm)

theorem flatMap_zip_setIdentifiers {α : Type} (f : Examples → List α) (sets : List Examples) :
    (sets.zip (setIdentifiers sets)).flatMap (fun set => f set.1) = sets.flatMap f := by
  calc (sets.zip (setIdentifiers sets)).flatMap (fun set => f set.1)
      = ((sets.zip (setIdentifiers sets)).map Prod.fst).flatMap f := by
        rw [List.flatMap_map]
    _ = sets.flatMap f := by rw [map_fst_zip_setIdentifiers]

-- The tests of one set of examples.
def IsVariants (kind : Kind) (scenario : Scenario) (set : Examples × Option String)
    (methods : List Method) : Prop :=
  ∃ names, namesOf set.1 = .ok names ∧
    methods = (names.zip set.1.rows).map fun (name, row) =>
      variantMethod kind scenario set.1 set.2 name row

-- There is one test for each row, in order.
theorem IsVariants.forall₂_rows {kind : Kind} {scenario : Scenario}
    {set : Examples × Option String} {methods : List Method}
    (h : IsVariants kind scenario set methods) {R : List (Option String) → Method → Prop}
    (hrow : ∀ name, ∀ row ∈ set.1.rows, R row (variantMethod kind scenario set.1 set.2 name row)) :
    List.Forall₂ R set.1.rows methods := by
  obtain ⟨names, hnames, rfl⟩ := h
  have hrows : (names.zip set.1.rows).map Prod.snd = set.1.rows :=
    List.map_snd_zip (Nat.le_of_eq (length_namesOf hnames).symm)
  have hpaired : List.Forall₂ R ((names.zip set.1.rows).map Prod.snd)
      ((names.zip set.1.rows).map fun (name, row) =>
        variantMethod kind scenario set.1 set.2 name row) := by
    rw [List.forall₂_map_left_iff, List.forall₂_map_right_iff, List.forall₂_same]
    exact fun entry hentry => hrow entry.1 entry.2 (List.of_mem_zip hentry).2
  rwa [hrows] at hpaired

theorem forall₂_examples {kind : Kind} {scenario : Scenario} {variants : List (List Method)}
    (h : List.Forall₂ (IsVariants kind scenario)
      (scenario.examples.zip (setIdentifiers scenario.examples)) variants)
    {R : Examples → List Method → Prop}
    (hset : ∀ set methods, set.1 ∈ scenario.examples ∧ IsVariants kind scenario set methods →
      R set.1 methods) :
    List.Forall₂ R scenario.examples variants := by
  have hmem : ∀ set ∈ scenario.examples.zip (setIdentifiers scenario.examples),
      set.1 ∈ scenario.examples := fun set hset => (List.of_mem_zip hset).1
  have hfst : List.Forall₂ R
      ((scenario.examples.zip (setIdentifiers scenario.examples)).map Prod.fst) variants := by
    rw [List.forall₂_map_left_iff]
    exact ((List.forall₂_and_left _ _).mpr ⟨hmem, h⟩).imp hset
  rwa [map_fst_zip_setIdentifiers] at hfst

theorem eq_variantMethod_of_mem {kind : Kind} {scenario : Scenario}
    {sets : List (Examples × Option String)} {variants : List (List Method)}
    (h : List.Forall₂ (IsVariants kind scenario) sets variants) :
    ∀ variant ∈ variants.flatten, ∃ examples set name row,
      variant = variantMethod kind scenario examples set name row := by
  induction h with
  | nil => simp
  | cons hfirst _ ih =>
      obtain ⟨names, -, rfl⟩ := hfirst
      rw [List.flatten_cons, List.forall_mem_append, List.forall_mem_map]
      exact ⟨fun entry _ => ⟨_, _, entry.1, entry.2, rfl⟩, ih⟩

-- What a scenario adds to its class, given the number of tables before it.
inductive IsPortion (kind : Kind) (feature : Feature) (before : Nat) (scenario : Scenario) :
    Portion → Prop where
  | plain {statements : List Stmt}
      (single : scenario.isOutline = false)
      (once : directiveFor kind feature scenario = none)
      (steps : body feature.background.isSome none before scenario = .ok statements) :
      IsPortion kind feature before scenario
        { methods := [{ testMethod kind scenario with statements }]
          tests := [methodName scenario] }
  | retried {statements : List Stmt} {d : Retry.Directive}
      (single : scenario.isOutline = false)
      (again : directiveFor kind feature scenario = some d)
      (writable : (Numeral.write? (d.count + 1)).isSome)
      (steps : body feature.background.isSome none before scenario = .ok statements) :
      IsPortion kind feature before scenario
        { methods :=
            [{ testMethod kind scenario with
                statements := Retry.loop (Retry.innerOf (testMethod kind scenario)) d.count d.spared },
             { Retry.innerOf (testMethod kind scenario) with statements }]
          tests := [methodName scenario] }
  | outline {header : List (Option String)} {known : Placeholders} {statements : List Stmt}
      {variants : List (List Method)}
      (several : scenario.isOutline)
      (agreed : columns scenario = .ok header)
      (named : placeholdersOf header = .ok known)
      (steps : body feature.background.isSome (some known) before scenario = .ok statements)
      (rows : List.Forall₂ (IsVariants kind scenario)
        (scenario.examples.zip (setIdentifiers scenario.examples)) variants) :
      IsPortion kind feature before scenario
        { methods := template known scenario statements :: variants.flatten
          tests := variants.flatten.map (·.name) }

theorem bodyOf_eq_ok {feature : Feature} {known : Option Placeholders} {before : Nat}
    {scenario : Scenario} {statements : List Stmt} :
    (bodyOf feature known before scenario).result = .ok statements ↔
      body feature.background.isSome known before scenario = .ok statements := by
  rw [bodyOf, Run.mapError_eq_ok, Run.result_ofExcept]

theorem plain_eq_ok {settings : Settings} {feature : Feature} {before : Nat}
    {scenario : Scenario} {p : Portion} (hsingle : scenario.isOutline = false) :
    (plain (.forUnittest settings) feature before scenario).result = .ok p ↔
      IsPortion settings.kind feature before scenario p := by
  simp only [plain, Run.bind_eq_ok, result_directive, result_decorated, Except.ok.injEq,
    exists_eq_left']
  cases hd : directiveFor settings.kind feature scenario with
  | none =>
      simp only [Run.bind_eq_ok, bodyOf_eq_ok]
      constructor
      · rintro ⟨statements, hbody, heq⟩
        cases heq
        exact .plain hsingle hd hbody
      · rintro (⟨_, _, hbody⟩ | ⟨_, hsome, _⟩ | ⟨hout⟩)
        · exact ⟨_, hbody, rfl⟩
        · simp [hd] at hsome
        · simp [hsingle] at hout
  | some d =>
      simp only [Run.bind_eq_ok, bodyOf_eq_ok, Run.result_mapError, Retry.result_wrap]
      by_cases hwrite : (Numeral.write? ((d.count : Int) + 1)).isSome
      · simp only [hwrite, if_true, Except.mapError, Except.ok.injEq, exists_eq_left']
        constructor
        · rintro ⟨statements, hbody, heq⟩
          cases heq
          exact .retried hsingle hd hwrite hbody
        · rintro (⟨_, hnone, _⟩ | ⟨_, hsome, _, hbody⟩ | ⟨hout⟩)
          · simp [hd] at hnone
          · cases hd.symm.trans hsome
            exact ⟨_, hbody, rfl⟩
          · simp [hsingle] at hout
      · constructor
        · rintro ⟨both, hwrap, -⟩
          simp [hwrite, Except.mapError] at hwrap
        · rintro (⟨_, hnone, _⟩ | ⟨_, hsome, hw, _⟩ | ⟨hout⟩)
          · simp [hd] at hnone
          · cases hd.symm.trans hsome
            exact absurd hw hwrite
          · simp [hsingle] at hout

theorem result_variant (settings : Settings) (scenario : Scenario) (examples : Examples)
    (set : Option String) (name : String) (row : List (Option String)) :
    (variant (.forUnittest settings) scenario examples set name row).result =
      .ok (variantMethod settings.kind scenario examples set name row) := by
  simp [variant, variantMethod, Except.map]

theorem variantsOf_eq_ok {settings : Settings} {scenario : Scenario} {set : Examples × Option String}
    {methods : List Method} :
    (variantsOf (.forUnittest settings) scenario set.1 set.2).result = .ok methods ↔
      IsVariants settings.kind scenario set methods := by
  have hrows : ∀ names : List String,
      ((names.zip set.1.rows).mapM fun (name, row) =>
        variant (.forUnittest settings) scenario set.1 set.2 name row).result =
      .ok ((names.zip set.1.rows).map fun (name, row) =>
        variantMethod settings.kind scenario set.1 set.2 name row) :=
    fun names => Run.result_mapM (fun _ => result_variant ..) _
  simp only [variantsOf, Run.bind_eq_ok, Run.result_ofExcept, hrows, Except.ok.injEq, IsVariants]
  exact exists_congr fun names => and_congr_right fun _ => eq_comm

theorem variants_eq_ok {settings : Settings} {scenario : Scenario} {methods : List Method} :
    (variants (.forUnittest settings) scenario).result = .ok methods ↔
      ∃ parts, List.Forall₂ (IsVariants settings.kind scenario)
        (scenario.examples.zip (setIdentifiers scenario.examples)) parts ∧
        methods = parts.flatten := by
  simp only [variants, Run.bind_eq_ok, Run.mapM_eq_ok, variantsOf_eq_ok, Run.result_pure,
    Except.ok.injEq]
  exact exists_congr fun parts => and_congr_right fun _ => eq_comm

theorem outline_eq_ok {settings : Settings} {feature : Feature} {before : Nat}
    {scenario : Scenario} {p : Portion} (hseveral : scenario.isOutline) :
    (outline (.forUnittest settings) feature before scenario).result = .ok p ↔
      IsPortion settings.kind feature before scenario p := by
  have hrows : Generator.usesRows (.forUnittest settings) = false := rfl
  simp only [outline, Run.bind_eq_ok, Run.result_ofExcept, result_directive, Except.ok.injEq,
    exists_eq_left', Run.result_warn_or, hrows, Bool.false_eq_true, if_false, expanded,
    bodyOf_eq_ok, variants_eq_ok, Run.result_pure]
  constructor
  · rintro ⟨header, hheader, known, hknown, statements, hbody, _, ⟨parts, hparts, rfl⟩, heq⟩
    cases heq
    exact .outline hseveral hheader hknown hbody hparts
  · rintro (⟨hsingle⟩ | ⟨hsingle⟩ | ⟨_, hheader, hknown, hbody, hparts⟩)
    · simp [hseveral] at hsingle
    · simp [hseveral] at hsingle
    · exact ⟨_, hheader, _, hknown, _, hbody, _, ⟨_, hparts, rfl⟩, rfl⟩

theorem portion_eq_ok {settings : Settings} {feature : Feature} {before : Nat}
    {scenario : Scenario} {p : Portion} :
    (portion (.forUnittest settings) feature before scenario).result = .ok p ↔
      scenario.name ≠ "" ∧ IsPortion settings.kind feature before scenario p := by
  unfold portion
  by_cases hn : scenario.name = ""
  · simp [hn]
  · by_cases ho : scenario.isOutline
    · simp [hn, ho, outline_eq_ok]
    · simp [hn, ho, plain_eq_ok]

-- The scenarios of a feature, each with the number of tables in the class before it.
def numbered (before : Nat) : List Scenario → List (Nat × Scenario)
  | [] => []
  | scenario :: rest =>
      (before, scenario) :: numbered (before + tableCount scenario.steps) rest

theorem portions_eq_ok {settings : Settings} {feature : Feature} {before : Nat}
    {scenarios : List Scenario} {ps : List Portion} :
    (portions (.forUnittest settings) feature before scenarios).result = .ok ps ↔
      (∀ scenario ∈ scenarios, scenario.name ≠ "") ∧
      List.Forall₂ (fun place p => IsPortion settings.kind feature place.1 place.2 p)
        (numbered before scenarios) ps := by
  induction scenarios generalizing before ps with
  | nil => cases ps <;> simp [portions, numbered]
  | cons scenario rest ih =>
      simp only [portions, Run.bind_eq_ok, portion_eq_ok, ih, Run.result_pure, Except.ok.injEq,
        numbered, List.forall₂_cons_left_iff, List.forall_mem_cons]
      constructor
      · rintro ⟨p, ⟨hn, hp⟩, others, ⟨hns, hothers⟩, rfl⟩
        exact ⟨⟨hn, hns⟩, p, others, hp, hothers, rfl⟩
      · rintro ⟨⟨hn, hns⟩, p, others, hp, hothers, rfl⟩
        exact ⟨p, ⟨hn, hp⟩, others, ⟨hns, hothers⟩, rfl⟩

-- What holds of every portion holds of the portions of scenarios, wherever they stand.
theorem forall₂_scenarios {kind : Kind} {feature : Feature} {before : Nat}
    {scenarios : List Scenario} {ps : List Portion}
    (h : List.Forall₂ (fun place p => IsPortion kind feature place.1 place.2 p)
      (numbered before scenarios) ps)
    {R : Scenario → Portion → Prop}
    (hportion : ∀ before, ∀ scenario ∈ scenarios, ∀ p,
      IsPortion kind feature before scenario p → R scenario p) :
    List.Forall₂ R scenarios ps := by
  induction scenarios generalizing before ps with
  | nil =>
      cases h
      exact .nil
  | cons scenario rest ih =>
      obtain _ | ⟨hfirst, hothers⟩ := h
      exact .cons (hportion _ scenario List.mem_cons_self _ hfirst)
        (ih hothers fun before other hother =>
          hportion before other (List.mem_cons_of_mem _ hother))

theorem backgroundMethods_eq_ok {feature : Feature} {methods : List Method} :
    backgroundMethods feature = .ok methods ↔
      match feature.background with
      | none => methods = []
      | some given => ∃ statements, StepCall.allStatements none 0 given.steps = .ok statements ∧
          methods = [{ name := backgroundName, statements }] := by
  unfold backgroundMethods
  cases feature.background with
  | none => simp [eq_comm]
  | some given =>
      cases h : StepCall.allStatements none 0 given.steps with
      | error fault => simp [background, h, bind, Except.bind]
      | ok statements => simp [background, h, bind, Except.bind, pure, Except.pure, eq_comm]

theorem forall_mem_background {feature : Feature} {given : List Method} {P : Method → Prop}
    (h : backgroundMethods feature = .ok given)
    (hmethod : ∀ statements, P { name := backgroundName, statements }) : ∀ m ∈ given, P m := by
  rw [backgroundMethods_eq_ok] at h
  cases hb : feature.background with
  | none =>
      rw [hb] at h
      rw [h]
      exact List.forall_mem_nil _
  | some background =>
      rw [hb] at h
      obtain ⟨statements, -, rfl⟩ := h
      exact List.forall_mem_singleton.mpr (hmethod statements)

-- The class of a feature, given the methods that its elements add.
def classOf (settings : Settings) (feature : Feature) (name : String) (given : List Method)
    (ps : List Portion) : ClassDecl :=
  { (shell (.forUnittest settings) feature name).mark
      (decorationFor settings.kind (feature.tags.map (·.name))).attributes with
    members := members (.forUnittest settings) feature given ps }

def moduleOf (settings : Settings) (feature : Feature) (name target : Option String)
    (given : List Method) (ps : List Portion) : ModuleDecl :=
  let runtime : Import := { name := settings.runtimeNamespace, members := some ["*"] }
  { name := some (orElse target settings.defaultNamespace)
    imports := [runtime, frameworkImport]
    classes := [classOf settings feature (orElse name (className feature)) given ps] }

theorem methods_members (g : Generator) (feature : Feature) (given : List Method)
    (ps : List Portion) :
    (members g feature given ps).filterMap Member.method? =
      lifecycle g.framework.traits g.settings.language feature ++ given ++
        ps.flatMap (·.methods) := by
  have hmethods : ∀ methods : List Method,
      (methods.map Member.method).filterMap Member.method? = methods := by
    intro methods
    rw [List.filterMap_map]
    exact List.filterMap_some
  have haliases : ∀ tests, (aliases frame tests).filterMap Member.method? = [] := by
    intro tests
    simp [aliases, publish, Member.method?]
  simp only [members, List.cons_append, List.filterMap_append, List.filterMap_cons, hmethods,
    haliases, List.append_nil]
  rfl

-- Without row tests the framework is told about no rows.
theorem rows_eq_nil {kind : Kind} {feature : Feature} {places : List (Nat × Scenario)}
    {ps : List Portion}
    (h : List.Forall₂ (fun place p => IsPortion kind feature place.1 place.2 p) places ps) :
    ps.flatMap (·.rows) = [] := by
  induction h with
  | nil => rfl
  | cons hp _ ih =>
      rw [List.flatMap_cons, ih]
      cases hp <;> rfl

theorem generate_eq_ok {settings : Settings} {feature : Feature} {name target : Option String}
    {out : Generated} :
    (generate (.forUnittest settings) feature name target).result = .ok out ↔
      ∃ given ps, backgroundMethods feature = .ok given ∧
        (∀ scenario ∈ feature.scenarios, scenario.name ≠ "") ∧
        List.Forall₂ (fun place p => IsPortion settings.kind feature place.1 place.2 p)
          (numbered (backgroundTables feature) feature.scenarios) ps ∧
        out = { source := moduleOf settings feature name target given ps } := by
  have hgrant : (Generator.forUnittest settings).framework.grant = .ok () := rfl
  have hdecorate := decorate_policiesFor settings.kind (feature.tags.map (·.name))
  simp only [generate, Run.bind_eq_ok, Run.mapError_eq_ok, Run.result_ofExcept, hgrant,
    portions_eq_ok, Run.result_info, Run.result_pure, Except.ok.injEq]
  constructor
  · rintro ⟨_, _, decoration, hd, given, hgiven, ps, ⟨hnames, hps⟩, _, _, heq⟩
    cases (hdecorate.symm.trans hd)
    refine ⟨given, ps, hgiven, hnames, hps, ?_⟩
    rw [← heq, rows_eq_nil hps]
    rfl
  · rintro ⟨given, ps, hgiven, hnames, hps, rfl⟩
    refine ⟨(), trivial, _, hdecorate, given, hgiven, ps, ⟨hnames, hps⟩, (), trivial, ?_⟩
    rw [rows_eq_nil hps]
    rfl

end Rehearsal.TestClass
