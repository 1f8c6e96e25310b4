import Rehearsal.Proofs.TestClass.Outcome
import Rehearsal.Proofs.TestClass.RowCalls

namespace Rehearsal.TestClass

open Code Outline StepCall

variable {X : Type}

theorem lookup_zip_map_text (keys values : List String) (key : String) :
    (keys.zip (values.map (Val.text (X := X)))).lookup key =
      ((keys.zip values).lookup key).map .text := by
  induction keys generalizing values with
  | nil => rfl
  | cons first rest ih =>
      cases values with
      | nil => rfl
      | cons value others =>
          cases hkey : key == first <;> simp [List.lookup_cons, hkey, ih]

-- Columns whose variables are apart from each other and from all others of a template.
structure HasOwnVariables (columns : List String) (template : Method) : Prop where
  distinct : (columns.map Identifier.camel).Nodup
  apart : ∀ column ∈ columns,
    Identifier.camel column ∉ exampleTags :: declaredNames template.statements

-- Besides, a placeholder with a brace in its name stands for none of the columns.
structure HasOwnColumns (columns : List String) (scenario : Scenario) (template : Method) : Prop
    extends HasOwnVariables columns template where
  plain : ∀ text, some text ∈ scenario.steps.flatMap Step.texts →
    ∀ name, .slot name ∈ pieces text.toList → HasBrace name → IsForeign columns name

-- How texts read in a row.
def readIn (columns values : List String) (text : Option String) : Val X :=
  .ofText (text.map (inRow columns values))

-- What a call of a template passes on.
def rowArguments (values tags : List String) : List (Val X) :=
  values.map .text ++ [.ofTags tags]

theorem parameterNames_template (known : Placeholders) (scenario : Scenario)
    (statements : List Stmt) :
    (template known scenario statements).parameterNames =
      known.entries.map (·.2) ++ [exampleTags] := by
  simp [Method.parameterNames, template, outlineParameters, List.filterMap_map, Slot.value?]

section Arguments

variable {columns values : List String} (hlength : values.length = columns.length)
  (tags : List String)
include hlength

theorem zip_rowArguments :
    (columns.map Identifier.camel ++ [exampleTags]).zip (rowArguments values tags : List (Val X)) =
      (columns.map Identifier.camel).zip (values.map .text) ++ [(exampleTags, .ofTags tags)] :=
  List.zip_append (by rw [List.length_map, List.length_map, hlength])

theorem lookup_rowArguments_column {column : String} (hcolumn : column ∈ columns) :
    ((columns.map Identifier.camel ++ [exampleTags]).zip
        (rowArguments values tags : List (Val X))).lookup (Identifier.camel column) =
      some (.text (columnValue columns values (Identifier.camel column))) := by
  have hmem : Identifier.camel column ∈ columns.map Identifier.camel :=
    List.mem_map_of_mem hcolumn
  have hlengths : values.length = (columns.map Identifier.camel).length := by
    rw [List.length_map, hlength]
  obtain ⟨found, hfound⟩ := exists_lookup_zip hlengths hmem
  rw [zip_rowArguments hlength, List.lookup_append, lookup_zip_map_text, columnValue, hfound]
  rfl

theorem lookup_rowArguments_tags (hnot : exampleTags ∉ columns.map Identifier.camel) :
    ((columns.map Identifier.camel ++ [exampleTags]).zip
      (rowArguments values tags : List (Val X))).lookup exampleTags = some (.ofTags tags) := by
  rw [zip_rowArguments hlength, List.lookup_append, lookup_zip_map_text, lookup_zip_eq_none hnot]
  rfl

end Arguments

section Template

variable {columns values : List String} {feature : Feature} {scenario : Scenario} {before : Nat}
  {statements : List Stmt}
  (hbody : body feature.background.isSome (some (placeholders columns)) before scenario =
    .ok statements)
  (htrimmed : ∀ column ∈ columns, trimmed column = column)
  (hlength : values.length = columns.length)

include htrimmed

-- A template takes one argument for each column, and the tags, where no column is repeated.
theorem length_parameterNames_template :
    (template (placeholders columns) scenario statements).parameterNames.length =
      columns.length + 1 ↔ columns.Nodup := by
  rw [parameterNames_template, ← length_entries_placeholders htrimmed]
  simp

include hbody hlength

-- A template that is called with a row makes the calls of its scenario, and its texts have the
-- values of the variables for its columns.
theorem template_run_filled
    (hown : HasOwnVariables columns (template (placeholders columns) scenario statements))
    (tags : List String) (host : Host X) {fields : String → Option (Val X)} {runner : Val X}
    (hrunner : fields Runner.field = some runner) :
    (template (placeholders columns) scenario statements).run host fields
        (rowArguments values tags) =
      some (host.played (rowCalls runner
        (filled (placeholders columns) (columnValue columns values)) feature scenario tags)) := by
  have hentries := entries_placeholders htrimmed (hown.distinct.of_map _)
  have hnames : (template (placeholders columns) scenario statements).parameterNames =
      columns.map Identifier.camel ++ [exampleTags] := by
    rw [parameterNames_template, hentries, List.map_map]
    rfl
  have hready : Ready (placeholders columns) (columnValue columns values) runner
      { locals := fun name =>
          ((columns.map Identifier.camel ++ [exampleTags]).zip
            (rowArguments values tags)).lookup name
        fields } := by
    refine ⟨fun entry hentry => ?_, hrunner⟩
    rw [hentries] at hentry
    obtain ⟨column, hcolumn, rfl⟩ := List.mem_map.mp hentry
    exact lookup_rowArguments_column hlength tags hcolumn
  have hnot : exampleTags ∉ columns.map Identifier.camel := by
    intro hmem
    obtain ⟨column, hcolumn, heq⟩ := List.mem_map.mp hmem
    exact hown.apart column hcolumn (heq ▸ List.mem_cons_self)
  have hdeclared : ∀ entry ∈ (placeholders columns).entries,
      entry.2 ∉ declaredNames statements := by
    intro entry hentry hmem
    rw [hentries] at hentry
    obtain ⟨column, hcolumn, rfl⟩ := List.mem_map.mp hentry
    exact hown.apart column hcolumn (List.mem_cons_of_mem _ hmem)
  apply Method.run_of_plays
  · rw [hnames, rowArguments]
    simp [hlength]
  · rw [hnames]
    exact plays_body hbody hdeclared hready rfl (lookup_rowArguments_tags hlength tags hnot)

theorem template_run
    (hown : HasOwnColumns columns scenario (template (placeholders columns) scenario statements))
    (tags : List String) (host : Host X) {fields : String → Option (Val X)} {runner : Val X}
    (hrunner : fields Runner.field = some runner) :
    (template (placeholders columns) scenario statements).run host fields
        (rowArguments values tags) =
      some (host.played (rowCalls runner (readIn columns values) feature scenario tags)) := by
  have hreads : ∀ text ∈ scenario.steps.flatMap Step.texts,
      filled (placeholders columns) (columnValue columns values) text =
        (readIn columns values text : Val X) := by
    intro text hmem
    cases text with
    | none => rw [filled, readIn, Option.map_none, Option.map_none]
    | some text =>
        rw [filled, readIn, Option.map_some, Option.map_some,
          replaced_placeholders htrimmed hown.distinct hlength (hown.plain text hmem)]
        rfl
  rw [template_run_filled hbody htrimmed hlength hown.toHasOwnVariables tags host hrunner,
    rowCalls, rowCalls, allCalls_congr hreads]

end Template

-- A test for a row only calls the template.
theorem variant_run (kind : Kind) (scenario : Scenario) (examples : Examples) (set : Option String)
    (name : String) (values : List String) (host : Host X) (fields : String → Option (Val X)) :
    (variantMethod kind scenario examples set name (values.map some)).run host fields [] =
      some (host.played
        [⟨.this, methodName scenario, rowArguments values (examples.tags.map (·.name))⟩]) := by
  apply Method.run_of_plays rfl
  apply Plays.single
  apply plays_invoke _ .this
  apply List.rel_append
  · rw [List.map_map, List.forall₂_map_left_iff, List.forall₂_map_right_iff, List.forall₂_same]
    exact fun value _ => .text value
  · exact .cons (.tagArray _) .nil

-- The test for a row calls the template with its values and the tags of its examples. A template
-- that is called so hands over every text as it reads in the row.
def HandsOverRow (feature : Feature) (scenario : Scenario) (columns : List String)
    (template : Method) (examples : Examples) (row : List (Option String)) (variant : Method) :
    Prop :=
  let tags := examples.tags.map (·.name)
  ∃ values : List String, row = values.map some ∧ values.length = columns.length ∧
    ∀ (X : Type) (host : Host X) (fields : String → Option (Val X)),
      variant.run host fields [] =
        some (host.played [⟨.this, template.name, rowArguments values tags⟩]) ∧
      (HasOwnColumns columns scenario template →
        ∀ runner, fields "testRunner" = some runner →
          template.run host fields (rowArguments values tags) =
            some (host.played (rowCalls runner (readIn columns values) feature scenario tags)))

-- An outline has a template, and a test for every row of its examples.
def ExpandsRows (feature : Feature) (scenario : Scenario) (methods : List Method) : Prop :=
  ∃ (columns : List String) (template : Method) (variants : List (List Method)),
    methods = template :: variants.flatten ∧
    (∀ e ∈ scenario.examples, e.header = some (columns.map some)) ∧
    (template.parameterNames.length = columns.length + 1 ↔ columns.Nodup) ∧
    List.Forall₂
      (fun e tests => List.Forall₂ (HandsOverRow feature scenario columns template e) e.rows tests)
      scenario.examples variants

theorem IsPortion.expandsRows {kind : Kind} {feature : Feature} {before : Nat}
    {scenario : Scenario} {p : Portion} (h : IsPortion kind feature before scenario p)
    (hseveral : scenario.isOutline) (htables : ∀ e ∈ scenario.examples, e.IsTable) :
    ExpandsRows feature scenario p.methods := by
  obtain ⟨hsingle⟩ | ⟨hsingle⟩ | ⟨-, hheader, hnamed, hbody, hvariants⟩ := h
  · cases hsingle.symm.trans hseveral
  · cases hsingle.symm.trans hseveral
  · obtain ⟨columns, rfl, hcolumns⟩ := exists_columns hseveral htables hheader
    rw [placeholdersOf_map_some] at hnamed
    cases hnamed
    have hne : scenario.examples ≠ [] := by simpa [Scenario.isOutline] using hseveral
    obtain ⟨first, hfirst⟩ := List.exists_mem_of_ne_nil _ hne
    have htrimmed := (hcolumns first hfirst).trimmed
    refine ⟨columns, _, _, rfl, fun e hmem => (hcolumns e hmem).header,
      length_parameterNames_template htrimmed, ?_⟩
    apply forall₂_examples hvariants
    rintro set methods ⟨hset, hmethods⟩
    apply hmethods.forall₂_rows
    intro name row hrow
    obtain ⟨values, rfl, hlength⟩ := (hcolumns set.1 hset).rows row hrow
    refine ⟨values, rfl, hlength, fun X host fields => ⟨variant_run .., ?_⟩⟩
    intro hown runner hrunner
    exact template_run hbody htrimmed hlength hown _ host hrunner

-- A feature that was read has a block of methods for each scenario. That of an outline expands
-- its rows.
theorem generate_expands_outlines {settings : Settings} {framework : Option Framework}
    {g : Generator} (hg : (Generator.ofSettings settings framework).result = .ok g)
    (hrows : g.usesRows = false) {path text : String} {feature : Feature}
    (hparse : Feature.parse path text = .ok feature) {name target : Option String}
    {out : Generated} (hout : (generate g feature name target).result = .ok out) :
    ∃ (front : List Method) (blocks : List (List Method)),
      out.source.classes.map (·.methods) = [front ++ blocks.flatten] ∧
      List.Forall₂ (fun scenario block => scenario.isOutline → ExpandsRows feature scenario block)
        feature.scenarios blocks := by
  have hstandard : g.IsStandard := ⟨granted_of_generate hout, Generator.policies_ofSettings hg⟩
  obtain ⟨given, ps, -, hportions, rfl⟩ := (generate_eq_ok_iff hstandard).mp hout
  rw [portions_eq_forUnittest hstandard hrows] at hportions
  obtain ⟨-, hps⟩ := portions_eq_ok.mp hportions
  have htables := (Feature.isCallable_isTable_of_parse hparse).examples
  refine ⟨_, ps.map (·.methods), methods_moduleFor .., ?_⟩
  rw [List.forall₂_map_right_iff]
  exact forall₂_scenarios hps fun before scenario hmem p hp hseveral =>
    hp.expandsRows hseveral (htables scenario hmem)

def brewText : String :=
  "Feature: Brew\nScenario Outline: Pour\nGiven <n> of \x7btea\x7d\n|<cup size>|\n" ++
  "@late\nExamples:\n|n|cup size|\x7btea\x7d|\n|2|big|green|\n"

def pour : Scenario :=
  { name := "Pour"
    steps := [
      { keyword := some "Given ", role := .given, text := some "<n> of \x7btea\x7d"
        argument := some (.table ⟨[[some "<cup size>"]]⟩), line := 3 }]
    examples := [
      { tags := [⟨"late", 5⟩], header := some [some "n", some "cup size", some "\x7btea\x7d"]
        rows := [[some "2", some "big", some "green"]], line := 6 }]
    line := 2 }

def brew : Feature := { name := "Brew", scenarios := [pour] }

theorem not_hasBrace_pour {text : String} {name : List Char}
    (htext : some text ∈ pour.steps.flatMap Step.texts) (hname : .slot name ∈ pieces text.toList) :
    ¬HasBrace name := by
  have htexts : pour.steps.flatMap Step.texts =
      [some "<n> of \x7btea\x7d", some "<cup size>"] := by decide
  have hof : pieces "<n> of \x7btea\x7d".toList =
      .slot ['n'] :: " of \x7btea\x7d".toList.map .char := by decide
  have hcup : pieces "<cup size>".toList = [.slot "cup size".toList] := by decide
  rw [htexts] at htext
  simp only [List.mem_cons, Option.some.injEq, List.not_mem_nil, or_false] at htext
  obtain rfl | rfl := htext
  · rw [hof] at hname
    obtain rfl : name = ['n'] := by simpa using hname
    decide
  · rw [hcup] at hname
    obtain rfl : name = "cup size".toList := by simpa using hname
    decide

-- Braces in a text do no harm where they are outside of placeholders.
theorem generate_expands_outlines_brew :
    Feature.parse "" brewText = .ok brew ∧
    ∃ g out, (Generator.ofSettings {} none).result = .ok g ∧ g.usesRows = false ∧
      (generate g brew none none).result = .ok out ∧
      (∃ template ∈ out.source.classes.flatMap (·.methods),
        template.name = "Pour" ∧ HasOwnColumns ["n", "cup size", "\x7btea\x7d"] pour template) ∧
      ∃ (front : List Method) (blocks : List (List Method)),
        out.source.classes.map (·.methods) = [front ++ blocks.flatten] ∧
        List.Forall₂ (fun scenario block => scenario.isOutline → ExpandsRows brew scenario block)
          brew.scenarios blocks := by
  have hparse : Feature.parse "" brewText = .ok brew := by decide +kernel
  refine ⟨hparse, _, _, rfl, rfl, rfl, ?_, ?_⟩
  · exact ⟨_, List.mem_of_getElem? (i := 6) rfl, rfl, ⟨by decide, by decide⟩,
      fun _ htext _ hname hbrace => absurd hbrace (not_hasBrace_pour htext hname)⟩
  · exact @generate_expands_outlines {} none _ rfl rfl _ _ _ hparse none none _ rfl

def bracedText : String :=
  "Feature: F\nScenario Outline: S\nGiven a <\x7bx\x7d>\nExamples:\n| \x7bx\x7d |\n| 1 |\n"

def bracedOutline : Scenario :=
  { name := "S"
    steps := [{ keyword := some "Given ", role := .given, text := some "a <\x7bx\x7d>", line := 3 }]
    examples := [{ header := some [some "\x7bx\x7d"], rows := [[some "1"]], line := 4 }]
    line := 2 }

def braced : Feature := { name := "F", scenarios := [bracedOutline] }

-- A placeholder for a column with braces is handed over as it is written.
theorem placeholder_kept_of_braces :
    Feature.parse "" bracedText = .ok braced ∧
    inRow ["\x7bx\x7d"] ["1"] "a <\x7bx\x7d>" = "a 1" ∧
    ∃ out, (generate (.forUnittest {}) braced none none).result = .ok out ∧
      ∃ template ∈ out.source.classes.flatMap (·.methods),
        ∀ (X : Type) (host : Host X) (fields : String → Option (Val X)) (runner : Val X),
          fields "testRunner" = some runner →
            template.run host fields (rowArguments ["1"] []) =
              some (host.played (rowCalls runner .ofText braced bracedOutline [])) := by
  refine ⟨by decide +kernel, by decide, _, rfl, _, List.mem_of_getElem? (i := 6) rfl, ?_⟩
  intro X host fields runner hrunner
  have hkept : ∀ text ∈ bracedOutline.steps.flatMap Step.texts,
      filled (placeholders ["\x7bx\x7d"]) (columnValue ["\x7bx\x7d"] ["1"]) text =
        (.ofText text : Val X) := by
    intro text hmem
    cases List.mem_singleton.mp hmem
    rfl
  have hrun := @template_run_filled X ["\x7bx\x7d"] ["1"] braced bracedOutline 0 _ rfl (by decide)
    rfl ⟨by decide, by decide⟩ [] host fields runner hrunner
  rw [rowCalls, allCalls_congr hkept] at hrun
  exact hrun

end Rehearsal.TestClass
