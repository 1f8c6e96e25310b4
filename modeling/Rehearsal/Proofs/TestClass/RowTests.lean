import Rehearsal.Proofs.TestClass.Outcome

namespace Rehearsal

-- Two computations that fail alike, or come to results that are related.
inductive Alike {ε α β : Type} (R : α → β → Prop) : Except ε α → Except ε β → Prop where
  | error (fault : ε) : Alike R (.error fault) (.error fault)
  | ok {a : α} {b : β} (h : R a b) : Alike R (.ok a) (.ok b)

namespace Alike

variable {ε α β γ δ : Type} {R : α → β → Prop} {S : γ → δ → Prop}

theorem bind {x : Except ε α} {y : Except ε β} {f : α → Except ε γ} {g : β → Except ε δ}
    (h : Alike R x y) (hstep : ∀ a b, R a b → Alike S (f a) (g b)) :
    Alike S (x.bind f) (y.bind g) := by
  cases h with
  | error fault => exact .error fault
  | ok hab => exact hstep _ _ hab

theorem map {x : Except ε α} {y : Except ε β} {f : α → γ} {g : β → δ} (h : Alike R x y)
    (hstep : ∀ a b, R a b → S (f a) (g b)) : Alike S (x.map f) (y.map g) := by
  cases h with
  | error fault => exact .error fault
  | ok hab => exact .ok (hstep _ _ hab)

theorem related {x : Except ε α} {y : Except ε β} {a : α} {b : β} (h : Alike R x y)
    (hx : x = .ok a) (hy : y = .ok b) : R a b := by
  cases h with
  | error fault => cases hx
  | ok hab =>
      cases hx
      cases hy
      exact hab

theorem of_eq (x : Except ε α) : Alike Eq x x := by
  cases x with
  | error fault => exact .error fault
  | ok a => exact .ok rfl

end Alike

open Code

-- The framework leaves the test out.
def Code.Method.IsSkipped (m : Method) : Prop := .of skipAttribute ∈ m.attributes

namespace TestClass

open Outline

-- A row as the framework is told about it.
structure HandedRow where
  arguments : List (Option String)
  tags : List String
  ignored : Bool

def HandedRow.event (test : String) (row : HandedRow) : RowEvent :=
  .row test row.arguments row.tags row.ignored

-- The rows of an outline, each with the tags of its examples.
def taggedRows (scenario : Scenario) : List (List (Option String) × List String) :=
  scenario.examples.flatMap fun e => e.rows.map fun row => (row, e.tags.map (·.name))

-- A test that calls the template with a row and the tags of its examples.
def CallsWith (template : String) (row : HandedRow) (variant : Method) : Prop :=
  variant.statements =
    [invokeThis template (row.arguments.map textOrNull ++ [tagArray row.tags])]

-- What a scenario adds with and without row tests. An outline becomes one test that is told its
-- rows, or a template that is called with them.
inductive Agrees (scenario : Scenario) : Portion → Portion → Prop where
  | plain {p : Portion} (single : scenario.isOutline = false) (silent : p.rows = []) :
      Agrees scenario p p
  | outline {test template : Method} {variants : List Method} {rows : List HandedRow}
      {rowed spelled : Portion}
      (several : scenario.isOutline)
      (rowedMethods : rowed.methods = [test])
      (spelledMethods : spelled.methods = template :: variants)
      (name : test.name = template.name)
      (parameters : test.parameters = template.parameters)
      (statements : test.statements = template.statements)
      (told : rowed.rows = .test test.name scenario.name :: rows.map (·.event test.name))
      (silent : spelled.rows = [])
      (complete : rows.map (fun row => (row.arguments, row.tags)) = taggedRows scenario)
      (calls : List.Forall₂ (CallsWith template.name) rows variants)
      (skips : List.Forall₂ (fun row variant =>
        row.ignored ∨ test.IsSkipped ↔ variant.IsSkipped) rows variants) :
      Agrees scenario rowed spelled

theorem skip_mem_attributes (kind : Kind) (tags : List String) :
    .of skipAttribute ∈ (decorationFor kind tags).attributes ↔
      ∃ tag ∈ tags, TagName.isMatch "ignore" tag := by
  have hcategory : ∀ categories, skipAttribute ≠ categoryAttribute categories := by
    intro categories h
    have hname : "unittest.skip" = "category" := congrArg Attribute.name h
    exact absurd hname (by decide)
  have hshown : Slot.of skipAttribute ∉ (if (shownTags kind tags).isEmpty then []
      else [Slot.of (categoryAttribute (shownTags kind tags))]) := by
    split
    · exact List.not_mem_nil
    · intro h
      rw [List.mem_singleton, Slot.of.injEq] at h
      exact hcategory _ h
  rw [Decoration.attributes, decorationFor, List.mem_append, or_iff_left hshown,
    List.mem_replicate, and_iff_left rfl, ← List.countP_pos_iff, Nat.pos_iff_ne_zero]

-- A row of some examples as the framework is told about it.
def handed (examples : Examples) (row : List (Option String)) : HandedRow :=
  let tags := examples.tags.map (·.name)
  ⟨row, tags, TagName.anyMatch "ignore" tags⟩

def handedRows (scenario : Scenario) : List HandedRow :=
  scenario.examples.flatMap fun e => e.rows.map (handed e)

theorem rowEvents_eq (scenario : Scenario) :
    rowEvents scenario = .test (methodName scenario) scenario.name ::
      (handedRows scenario).map (·.event (methodName scenario)) := by
  simp only [rowEvents, handedRows, List.map_flatMap, List.map_map]
  rfl

theorem handedRows_complete (scenario : Scenario) :
    (handedRows scenario).map (fun row => (row.arguments, row.tags)) = taggedRows scenario := by
  simp only [handedRows, taggedRows, List.map_flatMap, List.map_map]
  rfl

-- The rows that the framework is told of and the tests for them stand in the same order.
theorem forall₂_handedRows {kind : Kind} {scenario : Scenario} {variants : List (List Method)}
    (h : List.Forall₂ (IsVariants kind scenario)
      (scenario.examples.zip (setIdentifiers scenario.examples)) variants)
    {R : HandedRow → Method → Prop}
    (hrow : ∀ e set name row, R (handed e row) (variantMethod kind scenario e set name row)) :
    List.Forall₂ R (handedRows scenario) variants.flatten := by
  rw [handedRows, List.flatMap_def]
  apply List.rel_flatten
  rw [List.forall₂_map_left_iff]
  apply forall₂_examples h
  rintro set methods ⟨-, hmethods⟩
  rw [List.forall₂_map_left_iff]
  exact hmethods.forall₂_rows fun name row _ => hrow set.1 set.2 name row

theorem result_outline_rows {g : Generator} (hg : g.IsStandard) (hrows : g.usesRows)
    (htakes : g.framework.takesRows)
    (feature : Feature) (before : Nat) (scenario : Scenario) :
    (outline g feature before scenario).result =
      (columns scenario).bind fun header => (placeholdersOf header).bind fun known =>
        ((body feature.background.isSome (some known) before scenario).mapError .step).bind
          fun statements => .ok
            { methods := [
                { template known scenario statements with
                  attributes :=
                    (decorationFor g.settings.kind (scenario.tags.map (·.name))).attributes }]
              rows := rowEvents scenario } := by
  have hgrant : g.framework.grantRows = .ok () := by
    simp [Framework.grantRows, Framework.grant, hg.granted, htakes, bind, Except.bind]
  have hdirective : (directive g feature scenario).result =
      .ok (directiveFor g.settings.kind feature scenario) := result_directive g.settings ..
  have hdecorated : (decorated g scenario.tags).result =
      .ok (decorationFor g.settings.kind (scenario.tags.map (·.name))).attributes := by
    rw [decorated_eq_forUnittest hg, result_decorated]
  simp only [outline, Run.result_bind, Run.result_ofExcept, hdirective, Run.result_warn_or, hrows,
    if_true, rowTest, bodyOf, Run.result_mapError, hgrant, hdecorated, Except.bind,
    Except.mapError, Run.result_pure]

theorem result_outline_expanded (settings : Settings) (feature : Feature) (before : Nat)
    (scenario : Scenario) :
    (outline (.forUnittest settings) feature before scenario).result =
      (columns scenario).bind fun header => (placeholdersOf header).bind fun known =>
        ((body feature.background.isSome (some known) before scenario).mapError .step).bind
          fun statements => (variants (.forUnittest settings) scenario).result.bind fun tests => .ok
            { methods := template known scenario statements :: tests
              tests := tests.map (·.name) } := by
  have hrows : Generator.usesRows (.forUnittest settings) = false := rfl
  simp only [outline, Run.result_bind, Run.result_ofExcept, result_directive, Run.result_warn_or,
    hrows, Bool.false_eq_true, if_false, expanded, bodyOf, Run.result_mapError, Except.bind,
    Run.result_pure]

-- Two generators that differ in whether the framework is told about rows.
structure DifferInRows (rowed spelled : Generator) : Prop where
  rowedStandard : rowed.IsStandard
  spelledStandard : spelled.IsStandard
  kind : rowed.settings.kind = spelled.settings.kind
  usesRows : rowed.usesRows
  takesRows : rowed.framework.takesRows
  noRows : spelled.usesRows = false

section Strategies

variable {rowed spelled : Generator} (h : DifferInRows rowed spelled) {feature : Feature}
include h

theorem plain_alike {before : Nat} {scenario : Scenario} (hsingle : scenario.isOutline = false) :
    Alike (Agrees scenario) (plain rowed feature before scenario).result
      (plain spelled feature before scenario).result := by
  have hplain : plain rowed = plain spelled := by
    have hretries : rowed.retries = spelled.retries := by
      rw [Generator.retries, Generator.retries, h.kind]
    have hdecorated : decorated rowed = decorated spelled := by
      funext tags
      rw [decorated, decorated, h.rowedStandard.policies, h.spelledStandard.policies, h.kind]
    funext feature before scenario
    simp only [plain, directive, hretries, hdecorated]
  rw [hplain]
  cases hresult : (plain spelled feature before scenario).result with
  | error fault => exact .error fault
  | ok p =>
      rw [plain_eq_forUnittest h.spelledStandard, plain_eq_ok hsingle] at hresult
      have hsilent : p.rows = [] := by cases hresult <;> rfl
      exact .ok (.plain hsingle hsilent)

theorem outline_alike {before : Nat} {scenario : Scenario} (hseveral : scenario.isOutline)
    (hexamples : ∀ e ∈ scenario.examples, e.IsTable) :
    Alike (Agrees scenario) (outline rowed feature before scenario).result
      (outline spelled feature before scenario).result := by
  obtain ⟨parts, hparts⟩ := exists_isVariants spelled.settings.kind scenario fun set hset =>
    namesOf_of_isTable (hexamples set.1 (List.of_mem_zip hset).1)
  have hvariants : (variants (.forUnittest spelled.settings) scenario).result = .ok parts.flatten :=
    variants_eq_ok.mpr ⟨parts, hparts, rfl⟩
  rw [result_outline_rows h.rowedStandard h.usesRows h.takesRows,
    outline_eq_forUnittest h.spelledStandard h.noRows, result_outline_expanded, hvariants, h.kind]
  refine (Alike.of_eq _).bind fun header _ heq => heq ▸ ?_
  refine (Alike.of_eq _).bind fun known _ heq => heq ▸ ?_
  refine (Alike.of_eq _).bind fun statements _ heq => heq ▸ ?_
  refine .ok (.outline hseveral rfl rfl rfl rfl rfl (rowEvents_eq scenario) rfl
    (handedRows_complete scenario) (forall₂_handedRows hparts ?_) (forall₂_handedRows hparts ?_))
  · intro e set name row
    rfl
  · intro e set name row
    simp only [Method.IsSkipped, variantMethod, skip_mem_attributes, handed, TagName.anyMatch,
      List.any_eq_true, List.map_append, List.mem_append, or_and_right, exists_or]
    exact or_comm

theorem portion_alike {before : Nat} {scenario : Scenario}
    (hexamples : ∀ e ∈ scenario.examples, e.IsTable) :
    Alike (Agrees scenario) (portion rowed feature before scenario).result
      (portion spelled feature before scenario).result := by
  unfold portion
  split
  · exact .error _
  · split
    · rename_i hseveral
      exact outline_alike h hseveral hexamples
    · rename_i hsingle
      exact plain_alike h (by simpa using hsingle)

theorem portions_alike {before : Nat} {scenarios : List Scenario}
    (hexamples : ∀ s ∈ scenarios, ∀ e ∈ s.examples, e.IsTable) :
    Alike
      (fun ps qs => ∃ parts : List (Portion × Portion),
        ps = parts.map Prod.fst ∧ qs = parts.map Prod.snd ∧
          List.Forall₂ (fun scenario part => Agrees scenario part.1 part.2) scenarios parts)
      (portions rowed feature before scenarios).result
      (portions spelled feature before scenarios).result := by
  induction scenarios generalizing before with
  | nil => exact .ok ⟨[], rfl, rfl, .nil⟩
  | cons scenario rest ih =>
      rw [List.forall_mem_cons] at hexamples
      rw [portions, portions, Run.result_bind, Run.result_bind]
      refine (portion_alike h hexamples.1).bind fun p q hpq => ?_
      rw [Run.result_bind, Run.result_bind]
      refine (ih hexamples.2).bind ?_
      rintro _ _ ⟨parts, rfl, rfl, hparts⟩
      exact .ok ⟨(p, q) :: parts, rfl, rfl, .cons hpq hparts⟩

end Strategies

theorem Agrees.silent {scenario : Scenario} {rowed spelled : Portion}
    (h : Agrees scenario rowed spelled) : spelled.rows = [] := by
  cases h <;> assumption

theorem flatMap_rows_of_agrees {scenarios : List Scenario} {parts : List (Portion × Portion)}
    (h : List.Forall₂ (fun scenario part => Agrees scenario part.1 part.2) scenarios parts) :
    parts.flatMap (·.2.rows) = [] := by
  induction h with
  | nil => rfl
  | cons hfirst _ ih =>
      rw [List.flatMap_cons, hfirst.silent, ih]
      rfl

-- The classes of a feature with and without row tests: what every class has is the same, and so
-- is what each scenario adds.
structure ClassesAgree (feature : Feature) (rowed spelled : Generated) : Prop where
  methods : ∃ (front : List Method) (parts : List (Portion × Portion)),
    rowed.source.classes.map (·.methods) = [front ++ parts.flatMap (·.1.methods)] ∧
    spelled.source.classes.map (·.methods) = [front ++ parts.flatMap (·.2.methods)] ∧
    rowed.rows = parts.flatMap (·.1.rows) ∧
    List.Forall₂ (fun scenario part => Agrees scenario part.1 part.2) feature.scenarios parts
  silent : spelled.rows = []

-- With row tests and without them a feature is refused alike, or the two classes agree.
theorem rowTests_agree {settings : Settings} {framework : Framework}
    (hgranted : framework.isContract = false) (htraits : framework.traits.rowTests)
    (htakes : framework.takesRows) {rowed spelled : Generator}
    (hrowed : (Generator.ofSettings { settings with rowTests := true } (some framework)).result =
      .ok rowed)
    (hspelled : (Generator.ofSettings { settings with rowTests := false } (some framework)).result =
      .ok spelled)
    {path text : String} {feature : Feature} (hparse : Feature.parse path text = .ok feature)
    (name target : Option String) :
    Alike (ClassesAgree feature) (generate rowed feature name target).result
      (generate spelled feature name target).result := by
  cases Generator.ofSettings_some hrowed
  cases Generator.ofSettings_some hspelled
  have hdiffer : DifferInRows
      { settings := { settings with rowTests := true }, framework
        policies := Generator.policiesFor settings.kind }
      { settings := { settings with rowTests := false }, framework
        policies := Generator.policiesFor settings.kind } :=
    ⟨⟨hgranted, rfl⟩, ⟨hgranted, rfl⟩, rfl, by simp [Generator.usesRows, htraits], htakes,
      by simp [Generator.usesRows]⟩
  rw [generate_result hdiffer.rowedStandard, generate_result hdiffer.spelledStandard]
  refine (Alike.of_eq _).bind fun given _ heq => heq ▸ ?_
  refine (portions_alike hdiffer (Feature.isCallable_isTable_of_parse hparse).examples).map ?_
  rintro _ _ ⟨parts, rfl, rfl, hparts⟩
  refine ⟨⟨lifecycle framework.traits settings.language feature ++ given, parts, ?_, ?_, ?_,
    hparts⟩, ?_⟩
  · rw [methods_moduleFor, List.flatMap_map]
  · rw [methods_moduleFor, List.flatMap_map]
  · rw [List.flatMap_map]
  · rw [List.flatMap_map]
    exact flatMap_rows_of_agrees hparts

def parcelsText : String :=
  "Feature: Ship\nScenario Outline: Send\nWhen <n> go\n" ++
  "@ignore\nExamples:\n|n|\n|1|\nExamples:\n|n|\n|2|\n|3|\n"

def parcels : Feature :=
  { name := "Ship"
    scenarios := [
      { name := "Send"
        steps := [{ keyword := some "When ", role := .action, text := some "<n> go", line := 3 }]
        examples := [
          { tags := [⟨"ignore", 4⟩], header := some [some "n"], rows := [[some "1"]], line := 5 },
          { header := some [some "n"], rows := [[some "2"], [some "3"]], line := 8 }]
        line := 2 }] }

-- A framework with row tests.
def tabular : Framework := { name := "tabular", traits := { rowTests := true }, takesRows := true }

-- The first row is ignored, the other two are not.
theorem rowTests_agree_parcels :
    (tabular.isContract = false ∧ tabular.traits.rowTests ∧ tabular.takesRows) ∧
    Feature.parse "" parcelsText = .ok parcels ∧
    ∃ rowed spelled r s,
      (Generator.ofSettings { rowTests := true } (some tabular)).result = .ok rowed ∧
      (Generator.ofSettings { rowTests := false } (some tabular)).result = .ok spelled ∧
      (generate rowed parcels none none).result = .ok r ∧
      (generate spelled parcels none none).result = .ok s ∧
      ClassesAgree parcels r s := by
  have hparse : Feature.parse "" parcelsText = .ok parcels := by decide +kernel
  refine ⟨⟨rfl, rfl, rfl⟩, hparse, _, _, _, _, rfl, rfl, rfl, rfl, ?_⟩
  have halike := @rowTests_agree {} tabular rfl rfl rfl _ _ rfl rfl _ _ _ hparse none none
  exact halike.related rfl rfl

end TestClass

end Rehearsal
