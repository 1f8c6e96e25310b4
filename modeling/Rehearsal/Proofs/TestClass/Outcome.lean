import Rehearsal.Proofs.Feature.Parsed
import Rehearsal.Proofs.TestClass.Assembly
import Rehearsal.Proofs.TestClass.Source

namespace Rehearsal

open Code Outline

namespace StepCall

variable {known : Option Placeholders}

theorem statements_of_isCallable {step : Step} (h : step.IsCallable) (before : Nat) :
    Succeeds (StepCall.statements known before step) := by
  obtain ⟨keyword, role, text, argument, line⟩ := step
  match argument, h with
  | none, _ => exact .ok _
  | some (.docString value), _ => exact .ok _
  | some (.table ⟨header :: body⟩), _ => exact .ok _
  | some (.table ⟨[]⟩), h => exact absurd rfl h

theorem allStatements_of_isCallable {steps : List Step} (h : ∀ step ∈ steps, step.IsCallable)
    (before : Nat) : Succeeds (allStatements known before steps) := by
  induction steps generalizing before with
  | nil => exact .ok _
  | cons step rest ih =>
      exact (statements_of_isCallable (h step (by simp)) before).bind fun _ =>
        (ih (fun other hother => h other (List.mem_cons_of_mem step hother)) _).bind fun _ => .ok _

end StepCall

namespace TestClass

-- What a scenario needs so that there are tests for it.
structure IsGenerable (kind : Kind) (feature : Feature) (scenario : Scenario) : Prop where
  titled : scenario.name ≠ ""
  headed : ∀ e ∈ scenario.examples, e.header ≠ none
  agreed : ∀ e ∈ scenario.examples, ∀ other ∈ scenario.examples, e.header = other.header
  writable : kind = .retry → scenario.isOutline = false →
    ∀ d, Retry.directive? scenario (some feature) = some d →
      (Nat.repr (d.count + 1)).length ≤ 4300

-- What a scenario is refused for. The title is looked at first, then the headers.
inductive IsRefused (kind : Kind) (feature : Feature) (scenario : Scenario) : Fault → Prop where
  | untitled (h : scenario.name = "") : IsRefused kind feature scenario .untitled
  | noHeader (titled : scenario.name ≠ "") {e : Examples} (mem : e ∈ scenario.examples)
      (missing : e.header = none) : IsRefused kind feature scenario (.noHeader scenario.name)
  | unequalHeaders (titled : scenario.name ≠ "") (headed : ∀ e ∈ scenario.examples, e.header ≠ none)
      {e other : Examples} (mem : e ∈ scenario.examples) (otherMem : other ∈ scenario.examples)
      (differ : e.header ≠ other.header) :
      IsRefused kind feature scenario (.unequalHeaders scenario.name)
  | oversizedCount (titled : scenario.name ≠ "") (retries : kind = .retry)
      (single : scenario.isOutline = false) {d : Retry.Directive}
      (again : Retry.directive? scenario (some feature) = some d)
      (long : 4300 < (Nat.repr (d.count + 1)).length) :
      IsRefused kind feature scenario .oversizedCount

theorem isGenerable_or_isRefused (kind : Kind) (feature : Feature) (scenario : Scenario) :
    IsGenerable kind feature scenario ∨ ∃ fault, IsRefused kind feature scenario fault := by
  by_cases hname : scenario.name = ""
  · exact .inr ⟨_, .untitled hname⟩
  by_cases hheaded : ∀ e ∈ scenario.examples, e.header ≠ none
  swap
  · simp only [not_forall, not_not] at hheaded
    obtain ⟨e, hmem, hmissing⟩ := hheaded
    exact .inr ⟨_, .noHeader hname hmem hmissing⟩
  by_cases hagreed : ∀ e ∈ scenario.examples, ∀ other ∈ scenario.examples, e.header = other.header
  swap
  · simp only [not_forall] at hagreed
    obtain ⟨e, hmem, other, hother, hdiffer⟩ := hagreed
    exact .inr ⟨_, .unequalHeaders hname hheaded hmem hother hdiffer⟩
  by_cases hlong : ∃ d, kind = .retry ∧ scenario.isOutline = false ∧
      Retry.directive? scenario (some feature) = some d ∧ 4300 < (Nat.repr (d.count + 1)).length
  · obtain ⟨d, hretries, hsingle, hagain, hlong⟩ := hlong
    exact .inr ⟨_, .oversizedCount hname hretries hsingle hagain hlong⟩
  · refine .inl ⟨hname, hheaded, hagreed, fun hretries hsingle d hagain => ?_⟩
    by_contra hle
    exact hlong ⟨d, hretries, hsingle, hagain, by omega⟩

theorem directiveFor_eq_some {kind : Kind} {feature : Feature} {scenario : Scenario}
    {d : Retry.Directive} :
    directiveFor kind feature scenario = some d ↔
      kind = .retry ∧ Retry.directive? scenario (some feature) = some d := by
  by_cases h : kind = .retry <;> simp [directiveFor, h]

theorem columns_of_noHeader {scenario : Scenario} {e : Examples} (hmem : e ∈ scenario.examples)
    (hmissing : e.header = none) : columns scenario = .error (.noHeader scenario.name) := by
  have hcontains : (scenario.examples.map (·.header)).contains none := by
    rw [List.contains_iff_mem]
    exact List.mem_map.mpr ⟨e, hmem, hmissing⟩
  simp only [columns, hcontains, if_true]

theorem columns_of_headed {scenario : Scenario}
    (headed : ∀ e ∈ scenario.examples, e.header ≠ none) :
    columns scenario =
      match scenario.examples.filterMap (·.header) with
      | [] => .ok []
      | first :: others =>
          if others.all (· == first) then .ok first
          else .error (.unequalHeaders scenario.name) := by
  have hcontains : ¬ (scenario.examples.map (·.header)).contains none := by
    rw [List.contains_iff_mem, List.mem_map]
    rintro ⟨e, hmem, hmissing⟩
    exact headed e hmem hmissing
  simp only [columns, hcontains, List.filterMap_map]
  rfl

theorem columns_of_unequal {scenario : Scenario}
    (headed : ∀ e ∈ scenario.examples, e.header ≠ none) {e other : Examples}
    (hmem : e ∈ scenario.examples) (hother : other ∈ scenario.examples)
    (hdiffer : e.header ≠ other.header) :
    columns scenario = .error (.unequalHeaders scenario.name) := by
  have hheader : ∀ e ∈ scenario.examples, ∃ header, e.header = some header ∧
      header ∈ scenario.examples.filterMap (·.header) := by
    intro e hmem
    obtain ⟨header, hheader⟩ := Option.ne_none_iff_exists'.mp (headed e hmem)
    exact ⟨header, hheader, List.mem_filterMap.mpr ⟨e, hmem, hheader⟩⟩
  obtain ⟨first, hfirst, hfirstMem⟩ := hheader e hmem
  obtain ⟨second, hsecond, hsecondMem⟩ := hheader other hother
  rw [columns_of_headed headed]
  cases hheaders : scenario.examples.filterMap (·.header) with
  | nil => simp [hheaders] at hfirstMem
  | cons header rest =>
      rw [hheaders, List.mem_cons] at hfirstMem hsecondMem
      have hall : ¬ rest.all (· == header) := by
        intro hall
        have heq : ∀ h, h = header ∨ h ∈ rest → h = header := by
          rintro h (rfl | hmem)
          · rfl
          · simpa using List.all_eq_true.mp hall h hmem
        apply hdiffer
        rw [hfirst, hsecond, heq first hfirstMem, heq second hsecondMem]
      simp only [hall]
      rfl

theorem columns_of_agreed {scenario : Scenario} {header : List (Option String)}
    (h : ∀ e ∈ scenario.examples, e.header = some header) (hne : scenario.examples ≠ []) :
    columns scenario = .ok header := by
  have hheaders : ∀ sets : List Examples, (∀ e ∈ sets, e.header = some header) →
      sets.filterMap (·.header) = List.replicate sets.length header := by
    intro sets hsets
    induction sets with
    | nil => rfl
    | cons e rest ih =>
        rw [List.filterMap_cons, hsets e (by simp),
          ih fun other hother => hsets other (List.mem_cons_of_mem e hother)]
        rfl
  rw [columns_of_headed fun e hmem => by simp [h e hmem], hheaders scenario.examples h]
  obtain ⟨e, rest, hexamples⟩ := List.exists_cons_of_ne_nil hne
  simp [hexamples, List.replicate_succ]

theorem header_of_columns {scenario : Scenario} {header : List (Option String)}
    (h : columns scenario = .ok header) : ∀ e ∈ scenario.examples, e.header = some header := by
  intro e hmem
  have headed : ∀ e ∈ scenario.examples, e.header ≠ none := by
    intro other hother hmissing
    rw [columns_of_noHeader hother hmissing] at h
    cases h
  have hsame : ∀ other ∈ scenario.examples, other.header = e.header := by
    intro other hother
    by_contra hdiffer
    rw [columns_of_unequal headed hother hmem hdiffer] at h
    cases h
  obtain ⟨own, hown⟩ := Option.ne_none_iff_exists'.mp (headed e hmem)
  rw [columns_of_agreed (fun other hother => (hsame other hother).trans hown)
    (List.ne_nil_of_mem hmem)] at h
  cases h
  exact hown

-- Tables with one header have the same columns.
theorem exists_columns {scenario : Scenario} {header : List (Option String)}
    (hseveral : scenario.isOutline) (htables : ∀ e ∈ scenario.examples, e.IsTable)
    (h : columns scenario = .ok header) :
    ∃ names : List String, header = names.map some ∧
      ∀ e ∈ scenario.examples, e.HasColumns names := by
  have hown : ∀ e ∈ scenario.examples, ∃ names : List String, header = names.map some ∧
      e.HasColumns names := by
    intro e hmem
    have hheader := header_of_columns h e hmem
    obtain ⟨hmissing, -⟩ | ⟨names, hnames⟩ := htables e hmem
    · cases hmissing.symm.trans hheader
    · exact ⟨names, Option.some.inj (hheader.symm.trans hnames.header), hnames⟩
  have hne : scenario.examples ≠ [] := by simpa [Scenario.isOutline] using hseveral
  obtain ⟨e, hmem⟩ := List.exists_mem_of_ne_nil _ hne
  obtain ⟨names, rfl, -⟩ := hown e hmem
  refine ⟨names, rfl, fun other hother => ?_⟩
  obtain ⟨others, heq, hothers⟩ := hown other hother
  cases List.map_injective_iff.mpr (fun _ _ => Option.some.inj) heq
  exact hothers

theorem mapM_id_map_some {α : Type} (as : List α) : (as.map some).mapM id = some as := by
  induction as with
  | nil => rfl
  | cons a rest ih => simp [ih]

theorem placeholdersOf_map_some (names : List String) :
    placeholdersOf (names.map some) = .ok (placeholders names) := by
  rw [placeholdersOf, mapM_id_map_some]

-- The first cells of rows in which no value is missing.
theorem namesOf_of_isTable {e : Examples} (h : e.IsTable) : Succeeds (namesOf e) := by
  have hrow : ∀ row ∈ e.rows, ∃ values : List String, row = values.map some := by
    obtain ⟨-, hrows⟩ | ⟨columns, hcolumns⟩ := h
    · simp [hrows]
    · intro row hrow
      obtain ⟨values, hvalues, -⟩ := hcolumns.rows row hrow
      exact ⟨values, hvalues⟩
  have hfirst : ∃ first, e.rows.mapM firstCell? = some first := by
    generalize e.rows = rows at hrow
    induction rows with
    | nil => exact ⟨[], rfl⟩
    | cons row rest ih =>
        obtain ⟨values, rfl⟩ := hrow row (by simp)
        obtain ⟨others, hothers⟩ := ih fun row hmem => hrow row (List.mem_cons_of_mem _ hmem)
        cases values with
        | nil => exact ⟨"" :: others, by simp [firstCell?, hothers]⟩
        | cons value more => exact ⟨value :: others, by simp [firstCell?, hothers]⟩
  obtain ⟨first, hfirst⟩ := hfirst
  exact ⟨variantNames first, by simp [namesOf, hfirst]⟩

theorem exists_isVariants (kind : Kind) (scenario : Scenario)
    {sets : List (Examples × Option String)} (h : ∀ set ∈ sets, Succeeds (namesOf set.1)) :
    ∃ variants, List.Forall₂ (IsVariants kind scenario) sets variants := by
  induction sets with
  | nil => exact ⟨[], .nil⟩
  | cons set rest ih =>
      obtain ⟨names, hnames⟩ := h set (by simp)
      obtain ⟨variants, hvariants⟩ :=
        ih fun other hother => h other (List.mem_cons_of_mem set hother)
      exact ⟨_, .cons ⟨names, hnames, rfl⟩ hvariants⟩

variable {settings : Settings} {feature : Feature} {scenario : Scenario}

theorem body_of_isCallable (h : ∀ step ∈ scenario.steps, step.IsCallable) (hasBackground : Bool)
    (known : Option Placeholders) (before : Nat) :
    Succeeds (body hasBackground known before scenario) :=
  (StepCall.allStatements_of_isCallable h before).bind fun _ => .ok _

theorem outline_of_isGenerable {before : Nat} (hseveral : scenario.isOutline)
    (hsteps : ∀ step ∈ scenario.steps, step.IsCallable)
    (hexamples : ∀ e ∈ scenario.examples, e.IsTable)
    (h : IsGenerable settings.kind feature scenario) :
    ∃ p, IsPortion settings.kind feature before scenario p := by
  have hne : scenario.examples ≠ [] := by simpa [Scenario.isOutline] using hseveral
  obtain ⟨first, others, hsets⟩ := List.exists_cons_of_ne_nil hne
  have hmem : first ∈ scenario.examples := by simp [hsets]
  obtain ⟨hnone, -⟩ | ⟨names, hnames⟩ := hexamples first hmem
  · exact absurd hnone (h.headed first hmem)
  have hcolumns : columns scenario = .ok (names.map some) :=
    columns_of_agreed (fun e he => (h.agreed e he first hmem).trans hnames.header) hne
  obtain ⟨statements, hbody⟩ :=
    body_of_isCallable hsteps feature.background.isSome (some (placeholders names)) before
  obtain ⟨variants, hvariants⟩ := exists_isVariants settings.kind scenario fun set hset =>
    namesOf_of_isTable (hexamples set.1 (List.of_mem_zip hset).1)
  exact ⟨_, .outline hseveral hcolumns (placeholdersOf_map_some names) hbody hvariants⟩

theorem portion_of_isGenerable {before : Nat} (hsteps : ∀ step ∈ scenario.steps, step.IsCallable)
    (hexamples : ∀ e ∈ scenario.examples, e.IsTable)
    (h : IsGenerable settings.kind feature scenario) :
    Succeeds (portion (.forUnittest settings) feature before scenario).result := by
  suffices hp : ∃ p, IsPortion settings.kind feature before scenario p by
    obtain ⟨p, hp⟩ := hp
    exact ⟨p, portion_eq_ok.mpr ⟨h.titled, hp⟩⟩
  cases hsingle : scenario.isOutline with
  | true => exact outline_of_isGenerable hsingle hsteps hexamples h
  | false =>
      obtain ⟨statements, hbody⟩ := body_of_isCallable hsteps feature.background.isSome none before
      cases hd : directiveFor settings.kind feature scenario with
      | none => exact ⟨_, .plain hsingle hd hbody⟩
      | some d =>
          obtain ⟨hretries, hagain⟩ := directiveFor_eq_some.mp hd
          have hcount := h.writable hretries hsingle d hagain
          exact ⟨_, .retried hsingle hd (Numeral.isSome_write?_iff.mpr hcount) hbody⟩

theorem portion_of_isRefused {before : Nat} {fault : Fault}
    (h : IsRefused settings.kind feature scenario fault) :
    (portion (.forUnittest settings) feature before scenario).result = .error fault := by
  have houtline : ∀ {fault}, scenario.name ≠ "" → scenario.examples ≠ [] →
      columns scenario = .error fault →
      (portion (.forUnittest settings) feature before scenario).result = .error fault := by
    intro fault hname hne hcolumns
    simp [portion, hname, Scenario.isOutline, hne, outline, hcolumns, Except.bind]
  cases h with
  | untitled hname => simp [portion, hname]
  | noHeader titled mem missing =>
      exact houtline titled (List.ne_nil_of_mem mem) (columns_of_noHeader mem missing)
  | unequalHeaders titled headed mem otherMem differ =>
      exact houtline titled (List.ne_nil_of_mem mem)
        (columns_of_unequal headed mem otherMem differ)
  | @oversizedCount titled retries single d again long =>
      have hwrite : ¬ (Numeral.write? (d.count + 1 : Nat)).isSome := by
        rw [Numeral.isSome_write?_iff]
        omega
      have hwrap : (Retry.wrap (testMethod settings.kind scenario) d.count d.spared).result =
          .error {} := by
        rw [Retry.result_wrap, if_neg]
        exact hwrite
      have hd := directiveFor_eq_some.mpr ⟨retries, again⟩
      simp only [portion, titled, single, plain, Run.result_bind, result_directive,
        result_decorated, hd, Except.bind, String.isEmpty_iff, if_false, Bool.false_eq_true]
      simp only [Run.result_mapError, testMethod] at hwrap ⊢
      rw [hwrap]
      rfl

theorem portions_of_isGenerable {before : Nat} {scenarios : List Scenario}
    (hsteps : ∀ s ∈ scenarios, ∀ step ∈ s.steps, step.IsCallable)
    (hexamples : ∀ s ∈ scenarios, ∀ e ∈ s.examples, e.IsTable)
    (h : ∀ s ∈ scenarios, IsGenerable settings.kind feature s) :
    Succeeds (portions (.forUnittest settings) feature before scenarios).result := by
  induction scenarios generalizing before with
  | nil => exact .ok _
  | cons s rest ih =>
      rw [List.forall_mem_cons] at hsteps hexamples h
      rw [portions, Run.result_bind]
      refine (portion_of_isGenerable hsteps.1 hexamples.1 h.1).bind fun _ => ?_
      rw [Run.result_bind]
      exact (ih hsteps.2 hexamples.2 h.2).bind fun _ => .ok _

-- Scenarios after the first that is refused are not looked at.
theorem portions_of_isRefused {before : Nat} {front back : List Scenario} {fault : Fault}
    (hsteps : ∀ s ∈ front, ∀ step ∈ s.steps, step.IsCallable)
    (hexamples : ∀ s ∈ front, ∀ e ∈ s.examples, e.IsTable)
    (hfront : ∀ s ∈ front, IsGenerable settings.kind feature s)
    (h : IsRefused settings.kind feature scenario fault) :
    (portions (.forUnittest settings) feature before (front ++ scenario :: back)).result =
      .error fault := by
  induction front generalizing before with
  | nil =>
      rw [List.nil_append, portions, Run.result_bind, portion_of_isRefused h]
      rfl
  | cons s rest ih =>
      rw [List.forall_mem_cons] at hsteps hexamples hfront
      have hs : Succeeds (portion (.forUnittest settings) feature before s).result :=
        portion_of_isGenerable hsteps.1 hexamples.1 hfront.1
      obtain ⟨p, hp⟩ := hs
      rw [List.cons_append, portions, Run.result_bind, hp]
      simp [Except.bind, Except.map, ih hsteps.2 hexamples.2 hfront.2]

theorem first_refused_or_all_generable (kind : Kind) (feature : Feature)
    (scenarios : List Scenario) :
    (∀ s ∈ scenarios, IsGenerable kind feature s) ∨
      ∃ front scenario back fault, scenarios = front ++ scenario :: back ∧
        (∀ s ∈ front, IsGenerable kind feature s) ∧ IsRefused kind feature scenario fault := by
  induction scenarios with
  | nil => exact .inl nofun
  | cons s rest ih =>
      obtain hs | ⟨fault, hs⟩ := isGenerable_or_isRefused kind feature s
      · obtain hrest | ⟨front, scenario, back, fault, rfl, hfront, h⟩ := ih
        · exact .inl (List.forall_mem_cons.mpr ⟨hs, hrest⟩)
        · exact .inr ⟨s :: front, scenario, back, fault, rfl,
            List.forall_mem_cons.mpr ⟨hs, hfront⟩, h⟩
      · exact .inr ⟨[], s, rest, fault, rfl, nofun, hs⟩

theorem backgroundMethods_of_isCallable
    (h : ∀ given ∈ feature.background, ∀ step ∈ given.steps, step.IsCallable) :
    Succeeds (backgroundMethods feature) := by
  unfold backgroundMethods
  cases hb : feature.background with
  | none => exact .ok _
  | some given =>
      have hgiven : Succeeds (background given) :=
        (StepCall.allStatements_of_isCallable (h given hb) 0).bind fun _ => .ok _
      exact hgiven.bind fun _ => .ok _

section Parsed

variable {path text : String} (hparse : Feature.parse path text = .ok feature)
  (name target : Option String)
include hparse

-- The background of a feature that was read is never at fault, so the scenarios decide.
theorem exists_generate_result_of_parse (settings : Settings) :
    ∃ given, (generate (.forUnittest settings) feature name target).result =
      (portions (.forUnittest settings) feature (backgroundTables feature)
        feature.scenarios).result.map fun ps =>
          { source := moduleFor (.forUnittest settings) feature name target given ps
            rows := ps.flatMap (·.rows) } := by
  have hread := Feature.isCallable_isTable_of_parse hparse
  obtain ⟨given, hgiven⟩ := backgroundMethods_of_isCallable hread.background
  refine ⟨given, ?_⟩
  rw [generate_result (Generator.isStandard_forUnittest settings), hgiven]
  rfl

theorem generate_of_isGenerable
    (h : ∀ scenario ∈ feature.scenarios, IsGenerable settings.kind feature scenario) :
    Succeeds (generate (.forUnittest settings) feature name target).result := by
  have hread := Feature.isCallable_isTable_of_parse hparse
  obtain ⟨given, hresult⟩ := exists_generate_result_of_parse hparse name target settings
  have hps : Succeeds (portions (.forUnittest settings) feature (backgroundTables feature)
      feature.scenarios).result := portions_of_isGenerable hread.steps hread.examples h
  obtain ⟨ps, hps⟩ := hps
  rw [hresult, hps]
  exact .ok _

theorem generate_of_isRefused {front back : List Scenario} {fault : Fault}
    (hscenarios : feature.scenarios = front ++ scenario :: back)
    (hfront : ∀ earlier ∈ front, IsGenerable settings.kind feature earlier)
    (h : IsRefused settings.kind feature scenario fault) :
    (generate (.forUnittest settings) feature name target).result = .error fault := by
  have hread := Feature.isCallable_isTable_of_parse hparse
  have hmem : ∀ earlier ∈ front, earlier ∈ feature.scenarios := by
    intro earlier hearlier
    rw [hscenarios]
    exact List.mem_append_left _ hearlier
  obtain ⟨given, hresult⟩ := exists_generate_result_of_parse hparse name target settings
  rw [hresult, hscenarios, portions_of_isRefused (fun s hs => hread.steps s (hmem s hs))
    (fun s hs => hread.examples s (hmem s hs)) hfront h]
  rfl

end Parsed

-- A feature that was read has a test class when each of its scenarios can have tests. Otherwise
-- the first scenario that cannot says why. A test class always has a source text.
theorem generate_outcome_of_parse {g : Generator}
    (hg : (Generator.ofSettings settings none).result = .ok g) {path text : String}
    (hparse : Feature.parse path text = .ok feature) (name target : Option String) :
    ((∃ out, (generate g feature name target).result = .ok out) ↔
      ∀ scenario ∈ feature.scenarios, IsGenerable settings.kind feature scenario) ∧
    (∀ fault, (generate g feature name target).result = .error fault ↔
      ∃ front scenario back, feature.scenarios = front ++ scenario :: back ∧
        (∀ earlier ∈ front, IsGenerable settings.kind feature earlier) ∧
        IsRefused settings.kind feature scenario fault) ∧
    ∀ out, (generate g feature name target).result = .ok out →
      ∀ unit, ∃ source, out.source.render unit = .ok source := by
  cases Generator.ofSettings_eq_ok hg
  have hdecided := first_refused_or_all_generable settings.kind feature feature.scenarios
  refine ⟨⟨?_, generate_of_isGenerable hparse name target⟩, fun fault => ⟨?_, ?_⟩, ?_⟩
  · rintro ⟨out, hout⟩
    obtain hall | ⟨front, scenario, back, fault, hscenarios, hfront, h⟩ := hdecided
    · exact hall
    · rw [generate_of_isRefused hparse name target hscenarios hfront h] at hout
      cases hout
  · intro herror
    obtain hall | ⟨front, scenario, back, first, hscenarios, hfront, h⟩ := hdecided
    · obtain ⟨out, hout⟩ := generate_of_isGenerable hparse name target hall
      cases hout.symm.trans herror
    · have hfirst := generate_of_isRefused hparse name target hscenarios hfront h
      cases hfirst.symm.trans herror
      exact ⟨front, scenario, back, hscenarios, hfront, h⟩
  · rintro ⟨front, scenario, back, hscenarios, hfront, h⟩
    exact generate_of_isRefused hparse name target hscenarios hfront h
  · intro out hout unit
    exact render_succeeds_of_generate hout unit

def returnsText : String :=
  "Feature: Returns\n@Retry:2\nScenario: Refund\nScenario Outline: Exchange\n" ++
  "Examples:\n|item|\nExamples:\n|size|\nScenario:\n"

def refund : Scenario := { name := "Refund", tags := [⟨"Retry:2", 2⟩], line := 3 }

def exchange : Scenario :=
  { name := "Exchange"
    examples := [
      { header := some [some "item"], line := 5 },
      { header := some [some "size"], line := 7 }]
    line := 4 }

def returns : Feature :=
  { name := "Returns", scenarios := [refund, exchange, { name := "", line := 9 }] }

-- The third scenario has no title, but the second is refused before it is looked at.
theorem generate_outcome_of_returns : ∃ g,
    (Generator.ofSettings {} none).result = .ok g ∧
    Feature.parse "" returnsText = .ok returns ∧
    (generate g returns none none).result = .error (.unequalHeaders "Exchange") := by
  have hparse : Feature.parse "" returnsText = .ok returns := by decide +kernel
  have hrefund : IsGenerable .retry returns refund := by
    refine ⟨by decide, nofun, nofun, fun _ _ d hd => ?_⟩
    have hcount : d = ⟨2, none⟩ := by
      rw [← Option.some.injEq, ← hd]
      rfl
    rw [hcount]
    decide
  have hexchange : IsRefused .retry returns exchange (.unequalHeaders "Exchange") :=
    .unequalHeaders (by decide) (by decide) List.mem_cons_self
      (List.mem_cons_of_mem _ List.mem_cons_self) (by decide)
  refine ⟨_, rfl, hparse, ?_⟩
  exact ((@generate_outcome_of_parse {} _ _ rfl _ _ hparse none none).2.1 _).mpr
    ⟨[refund], exchange, _, rfl, List.forall_mem_singleton.mpr hrefund, hexchange⟩

end TestClass

end Rehearsal
