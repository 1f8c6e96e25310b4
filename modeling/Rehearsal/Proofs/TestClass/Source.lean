import Rehearsal.Proofs.Code.Rendering
import Rehearsal.Proofs.TestClass.Revision
import Rehearsal.Proofs.TestClass.Steps

namespace Rehearsal

open Code

namespace Numeral

theorem isSome_write?_iff {n : Nat} :
    (write? n).isSome ↔ (Nat.repr n).length ≤ 4300 := by
  unfold write?
  simp only [Int.natAbs_natCast, maxDigits]
  split <;> simp [*]

-- What comes before a number that can be written can be written as well.
theorem isSome_write?_of_succ {n : Nat} (h : (write? (n + 1 : Nat)).isSome) :
    (write? n).isSome := by
  rw [isSome_write?_iff, Nat.repr_eq_ofList_toDigits, String.length_ofList,
    Nat.length_toDigits_le_iff (by omega) (by omega)] at h ⊢
  omega

end Numeral

namespace Outline

theorem isRenderable_substituted (known : Option Placeholders) (value : Option String) :
    (substituted known value).isRenderable := by
  unfold substituted
  split
  · rfl
  · split
    · rfl
    · dsimp only
      split
      · rfl
      · simp [Expr.isRenderable, Expr.areRenderable_iff]

theorem isRenderable_substitutedArray (known : Option Placeholders) (items : List (Option String)) :
    (substitutedArray known items).isRenderable := by
  rw [substitutedArray, stringArray, Expr.isRenderable, Expr.areRenderable_iff, List.forall_mem_map]
  exact fun item _ => isRenderable_substituted known item

theorem areRenderable_texts (names : List String) : Expr.areRenderable (names.map text) := by
  rw [Expr.areRenderable_iff, List.forall_mem_map]
  exact fun _ _ => rfl

theorem isRenderable_tagArray (names : List String) : (tagArray names).isRenderable := by
  unfold tagArray
  split
  · rfl
  · exact areRenderable_texts names

end Outline

theorem isRenderable_textOrNull (value : Option String) : (textOrNull value).isRenderable := by
  cases value <;> rfl

namespace StepCall

open Outline

variable {known : Option Placeholders}

theorem isRenderable_callRunner (step : Step) (content : Option String) {table : Expr}
    (h : table.isRenderable) : (callRunner known step content table).isRenderable := by
  simp [callRunner, Runner.call, invoke, Stmt.isRenderable, Expr.isRenderable, Expr.areRenderable,
    Runner.expr, thisField, isRenderable_substituted, isRenderable_textOrNull, h]

theorem areRenderable_declareTable (name : String) (header : List (Option String))
    (body : List (List (Option String))) :
    Stmt.areRenderable (declareTable known name header body) := by
  have hrows : Stmt.areRenderable (body.map fun row =>
      invoke (.var name) "AddRow" [substitutedArray known row]) := by
    rw [Stmt.areRenderable_iff, List.forall_mem_map]
    intro row _
    simp [invoke, Stmt.isRenderable, Expr.isRenderable, Expr.areRenderable,
      isRenderable_substitutedArray]
  simp [declareTable, Stmt.areRenderable, hrows, Stmt.isRenderable, Expr.isRenderable,
    Expr.areRenderable, isRenderable_substitutedArray, Slot.value?]

theorem areRenderable_statements {before : Nat} {step : Step} {statements : List Stmt}
    (h : StepCall.statements known before step = .ok statements) :
    Stmt.areRenderable statements := by
  unfold StepCall.statements at h
  split at h <;> cases h
  · rw [Stmt.areRenderable, isRenderable_callRunner step none rfl]
    rfl
  · rw [Stmt.areRenderable, isRenderable_callRunner step _ rfl]
    rfl
  · rw [Stmt.areRenderable_append, areRenderable_declareTable, Stmt.areRenderable,
      isRenderable_callRunner step none rfl]
    rfl

theorem areRenderable_allStatements {before : Nat} {steps : List Step} {statements : List Stmt}
    (h : allStatements known before steps = .ok statements) : Stmt.areRenderable statements := by
  induction steps generalizing before statements with
  | nil =>
      cases h
      rfl
  | cons step rest ih =>
      obtain ⟨first, others, hfirst, hothers, rfl⟩ := allStatements_cons_eq_ok.mp h
      rw [Stmt.areRenderable_append, areRenderable_statements hfirst, ih hothers, Bool.and_true]

end StepCall

namespace TestClass

open Outline

theorem areRenderable_opening (hasBackground : Bool) (known : Option Placeholders)
    (scenario : Scenario) : Stmt.areRenderable (opening hasBackground known scenario) := by
  have hpreamble : Stmt.areRenderable (tagPreamble known (scenario.tags.map (·.name))).1 ∧
      (tagPreamble known (scenario.tags.map (·.name))).2.isRenderable := by
    unfold tagPreamble
    cases known with
    | none => exact ⟨rfl, isRenderable_tagArray _⟩
    | some table =>
        dsimp only
        split
        · exact ⟨rfl, rfl⟩
        · refine ⟨?_, rfl⟩
          simp [joinTags, Stmt.areRenderable, Stmt.isRenderable, isRenderable_tagArray,
            Expr.isRenderable, mergedTags, nullLiteral, Literal.isRenderable]
  have hbackground : Stmt.areRenderable
      (if hasBackground then [invokeThis backgroundName []] else []) := by
    cases hasBackground <;> rfl
  simp only [opening, Stmt.areRenderable_append, hpreamble.1, hbackground, Bool.and_true,
    Bool.true_and]
  simp [Stmt.areRenderable, Stmt.isRenderable, Expr.isRenderable, Expr.areRenderable, hpreamble.2,
    invokeThis, invoke, text, Literal.isRenderable, Slot.value?]

theorem areRenderable_body {hasBackground : Bool} {known : Option Placeholders} {before : Nat}
    {scenario : Scenario} {statements : List Stmt}
    (h : body hasBackground known before scenario = .ok statements) :
    Stmt.areRenderable statements := by
  obtain ⟨emitted, hemitted, rfl⟩ := body_eq_ok.mp h
  rw [Stmt.areRenderable_append, Stmt.areRenderable_append, areRenderable_opening,
    StepCall.areRenderable_allStatements hemitted]
  rfl

theorem areRenderable_loop {inner : Method} {count : Nat} {spared : Option String}
    (hcount : (Numeral.write? count).isSome) (hp : inner.parameters = []) :
    Stmt.areRenderable (Retry.loop inner count spared) := by
  have hhandlers : Handler.areRenderable (Retry.handlers spared) := by
    unfold Retry.handlers
    cases spared with
    | none => rfl
    | some name =>
        dsimp only
        split <;> rfl
  have hattempt : (Retry.attempt inner spared).isRenderable := by
    simp [Retry.attempt, Stmt.isRenderable, Stmt.areRenderable, hhandlers, invokeThis, invoke,
      Expr.isRenderable, Retry.passedOn, hp, Expr.areRenderable]
  have hsmall : (Numeral.write? 0).isSome ∧ (Numeral.write? 1).isSome := by decide
  simp [Retry.loop, Stmt.areRenderable, Stmt.isRenderable, Expr.isRenderable, hattempt,
    Retry.counter, Retry.counterPlusOne, Retry.lastException, int, nullLiteral, Runner.call,
    Runner.expr, thisField, invoke, Expr.areRenderable, Literal.isRenderable, hcount, hsmall]

theorem isRenderable_attributes (decoration : Decoration) :
    ∀ slot ∈ decoration.attributes, Attribute.IsRenderable slot := by
  intro slot hslot
  obtain hskip | hcategory := List.mem_append.mp hslot
  · exact ⟨_, List.eq_of_mem_replicate hskip, rfl⟩
  · split at hcategory
    · cases hcategory
    · exact ⟨_, List.mem_singleton.mp hcategory, areRenderable_texts _⟩

theorem isRenderable_variantMethod (kind : Kind) (scenario : Scenario) (examples : Examples)
    (set : Option String) (name : String) (row : List (Option String)) :
    (variantMethod kind scenario examples set name row).IsRenderable where
  attributes := isRenderable_attributes _
  parameters := nofun
  statements := by
    have harguments : Expr.areRenderable
        (row.map textOrNull ++ [tagArray (examples.tags.map (·.name))]) := by
      rw [Expr.areRenderable_iff, List.forall_mem_append, List.forall_mem_map]
      exact ⟨fun cell _ => isRenderable_textOrNull cell, by simp [isRenderable_tagArray]⟩
    simp [variantMethod, invokeThis, invoke, Stmt.areRenderable, Stmt.isRenderable,
      Expr.isRenderable, harguments]

theorem IsPortion.isRenderable {kind : Kind} {feature : Feature} {before : Nat}
    {scenario : Scenario} {p : Portion} (h : IsPortion kind feature before scenario p) :
    ∀ m ∈ p.methods, m.IsRenderable := by
  cases h with
  | plain _ _ steps =>
      rw [List.forall_mem_singleton]
      exact ⟨isRenderable_attributes _, nofun, areRenderable_body steps⟩
  | retried _ _ writable steps =>
      have hcount := Numeral.isSome_write?_of_succ writable
      rw [List.forall_mem_cons, List.forall_mem_singleton]
      exact ⟨⟨isRenderable_attributes _, nofun, areRenderable_loop hcount rfl⟩,
        ⟨nofun, nofun, areRenderable_body steps⟩⟩
  | outline _ _ _ steps rows =>
      rw [List.forall_mem_cons]
      constructor
      · refine ⟨nofun, fun slot hslot => ?_, areRenderable_body steps⟩
        obtain hcolumn | htags := List.mem_append.mp hslot
        · obtain ⟨entry, -, rfl⟩ := List.mem_map.mp hcolumn
          exact ⟨_, rfl⟩
        · exact ⟨_, List.mem_singleton.mp htags⟩
      · intro m hm
        obtain ⟨examples, set, name, row, rfl⟩ := eq_variantMethod_of_mem rows m hm
        exact isRenderable_variantMethod ..

theorem isRenderable_lifecycle (traits : Traits) (language : Language) (feature : Feature) :
    ∀ m ∈ lifecycle traits language feature, m.IsRenderable := by
  have hclassMethod : ∀ slot ∈ [Slot.of classMethodAttribute], Attribute.IsRenderable slot := by
    rw [List.forall_mem_singleton]
    exact ⟨_, rfl, rfl⟩
  have hrunner : (obtainRunner traits).isRenderable := by
    unfold obtainRunner
    split <;> decide
  have hinfo : (declareFeatureInfo language feature).isRenderable := by
    simp [declareFeatureInfo, Stmt.isRenderable, Expr.isRenderable, Expr.areRenderable,
      isRenderable_textOrNull, isRenderable_tagArray, text, Literal.isRenderable, Slot.value?]
  simp only [lifecycle, List.forall_mem_cons, List.not_mem_nil, false_imp_iff, implies_true,
    and_true]
  have hplain : ∀ slot ∈ [], Attribute.IsRenderable slot := List.forall_mem_nil _
  have hempty : ∀ slot : Slot Parameter, slot ∈ [] → ∃ p, slot = .of p := List.forall_mem_nil _
  refine ⟨⟨hclassMethod, hempty, ?_⟩, ⟨hclassMethod, hempty, rfl⟩, ⟨hplain, hempty, rfl⟩,
    ⟨hplain, hempty, rfl⟩, ⟨hplain, ?_, rfl⟩, ⟨hplain, hempty, rfl⟩⟩
  · simp [classSetup, Stmt.areRenderable, hrunner, hinfo]
    rfl
  · simp [scenarioSetup]

theorem isRenderable_backgroundMethods {feature : Feature} {methods : List Method}
    (h : backgroundMethods feature = .ok methods) : ∀ m ∈ methods, m.IsRenderable := by
  rw [backgroundMethods_eq_ok] at h
  cases hb : feature.background with
  | none =>
      simp only [hb] at h
      simp [h]
  | some given =>
      simp only [hb] at h
      obtain ⟨statements, hstatements, rfl⟩ := h
      rw [List.forall_mem_singleton]
      exact ⟨nofun, nofun, StepCall.areRenderable_allStatements hstatements⟩

theorem portions_isRenderable {kind : Kind} {feature : Feature} {places : List (Nat × Scenario)}
    {ps : List Portion}
    (h : List.Forall₂ (fun place p => IsPortion kind feature place.1 place.2 p) places ps) :
    ∀ m ∈ ps.flatMap (·.methods), m.IsRenderable := by
  induction h with
  | nil => simp
  | cons hp _ ih =>
      rw [List.flatMap_cons, List.forall_mem_append]
      exact ⟨hp.isRenderable, ih⟩

theorem isRenderable_aliases (tests : List String) :
    ∀ member ∈ aliases frame tests, member.IsRenderable := by
  rw [aliases, List.forall_mem_append, List.forall_mem_map]
  refine ⟨?_, fun _ _ => rfl⟩
  simp only [List.forall_mem_cons, List.not_mem_nil, false_imp_iff, implies_true, and_true]
  exact ⟨rfl, rfl, rfl, rfl⟩

theorem isRenderable_classOf {settings : Settings} {feature : Feature} {name : String}
    {given : List Method} {ps : List Portion} (hgiven : ∀ m ∈ given, m.IsRenderable)
    (hps : ∀ m ∈ ps.flatMap (·.methods), m.IsRenderable) :
    (classOf settings feature name given ps).IsRenderable where
  attributes := by
    intro slot hslot
    rw [classOf, ClassDecl.mark, attributes_shell, List.nil_append] at hslot
    exact isRenderable_attributes _ slot hslot
  bases := by
    have hbases : (classOf settings feature name given ps).bases =
        [.of (typeNamed "unittest.TestCase")] := by
      unfold classOf shell
      dsimp only
      split <;> rfl
    simp [hbases, Slot.value?]
  members := by
    rw [classOf, members, List.cons_append, List.forall_mem_cons, List.forall_mem_append,
      List.forall_mem_map, List.forall_mem_append, List.forall_mem_append]
    exact ⟨rfl, ⟨⟨fun m => isRenderable_lifecycle _ _ _ m, hgiven⟩, hps⟩, isRenderable_aliases _⟩

-- Whatever is generated has a source text.
theorem render_succeeds_of_generate {settings : Settings} {feature : Feature}
    {name target : Option String} {out : Generated}
    (h : (generate (.forUnittest settings) feature name target).result = .ok out) (unit : String) :
    Succeeds (out.source.render unit) := by
  obtain ⟨given, ps, hgiven, -, hps, rfl⟩ := generate_eq_ok.mp h
  apply ModuleDecl.render_succeeds
  · simp [moduleOf]
  · rw [moduleOf, List.forall_mem_singleton]
    exact isRenderable_classOf (isRenderable_backgroundMethods hgiven) (portions_isRenderable hps)

end TestClass

end Rehearsal
