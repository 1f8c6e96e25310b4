import Rehearsal.Framework.Draft
import Rehearsal.Proofs.TestClass.Publication

namespace Rehearsal

open Code

-- How a class comes about. Members are added bare, and all else is left to the framework: it is
-- asked for the marks and titles of tests and for the names under which it finds them.
inductive Builds (framework : Framework) (start : Draft) : Draft → Prop where
  | start : Builds framework start start
  | field {draft : Draft} {f : FieldDecl} (before : Builds framework start draft)
      (unset : f.init = none) : Builds framework start (draft.push (.field f))
  | method {draft : Draft} {m : Method} (before : Builds framework start draft)
      (untitled : m.description = none) (unmarked : m.attributes = []) :
      Builds framework start (draft.push (.method m))
  | classSetup {draft : Draft} {m : Method} (before : Builds framework start draft)
      (untitled : m.description = none) (unmarked : m.attributes = []) :
      Builds framework start (draft.push (.method (m.mark draft.classSetup)))
  | classCleanup {draft : Draft} {m : Method} (before : Builds framework start draft)
      (untitled : m.description = none) (unmarked : m.attributes = []) :
      Builds framework start (draft.push (.method (m.mark draft.classCleanup)))
  | ask {draft after : Draft} {request : Request} (before : Builds framework start draft)
      (granted : framework.fulfil draft request = .ok after) : Builds framework start after

-- A request about a method that was just added is about no other one.
theorem Draft.update_push (draft : Draft) (m : Method) (f : Method → Method) :
    (draft.push (.method m)).update m.name f = draft.push (.method (f m)) := by
  simp [update, push, updateMethod, updateFirst, ClassDecl.push]

-- What holds without marks, and still holds after each mark that a framework sets, holds with all
-- marks that tags ask for.
theorem Decoration.attributes_induction {P : List (Slot Attribute) → Prop} (hnone : P [])
    (hskip : ∀ marks, P marks → P (marks ++ [.of skipAttribute]))
    (hcategory : ∀ marks categories, P marks → P (marks ++ [.of (categoryAttribute categories)]))
    (decoration : Decoration) : P decoration.attributes := by
  have hskips : P (List.replicate decoration.skips (.of skipAttribute)) := by
    induction decoration.skips with
    | zero => exact hnone
    | succ skips ih =>
        rw [List.replicate_succ']
        exact hskip _ ih
  unfold attributes
  split
  · rwa [List.append_nil]
  · exact hcategory _ _ hskips

namespace Builds

variable {start draft : Draft}

theorem markClass (h : Builds .unittest start draft) (decoration : Decoration) :
    Builds .unittest start { draft with shell := draft.shell.mark decoration.attributes } := by
  refine @Decoration.attributes_induction
    (fun marks => Builds .unittest start { draft with shell := draft.shell.mark marks }) ?_ ?_ ?_ _
  · rwa [ClassDecl.mark, List.append_nil]
  · intro marks hmarks
    rw [ClassDecl.mark, ← List.append_assoc]
    exact @ask _ _ _ _ .skipClass hmarks rfl
  · intro marks categories hmarks
    rw [ClassDecl.mark, ← List.append_assoc]
    exact @ask _ _ _ _ (.categorizeClass categories) hmarks rfl

theorem update {m : Method} {f : Method → Method} {request : Request}
    (h : Builds .unittest start (draft.push (.method m)))
    (granted : ∀ draft, Framework.unittest.fulfil draft request = .ok (draft.update m.name f)) :
    Builds .unittest start (draft.push (.method (f m))) := by
  have hnext := h.ask (granted _)
  rwa [Draft.update_push] at hnext

theorem markTest {m : Method} (h : Builds .unittest start (draft.push (.method m)))
    (decoration : Decoration) :
    Builds .unittest start (draft.push (.method (m.mark decoration.attributes))) := by
  refine @Decoration.attributes_induction
    (fun marks => Builds .unittest start (draft.push (.method (m.mark marks)))) ?_ ?_ ?_ _
  · rwa [Method.mark, List.append_nil]
  · intro marks hmarks
    rw [Method.mark, ← List.append_assoc]
    exact @update _ _ _ _ (.skipTest m.name) hmarks fun _ => rfl
  · intro marks categories hmarks
    rw [Method.mark, ← List.append_assoc]
    exact @update _ _ _ _ (.categorizeTest m.name categories) hmarks fun _ => rfl

-- A test is added bare, then it is titled, and then it is marked.
theorem test (h : Builds .unittest start draft) {m : Method} {decoration : Decoration}
    (hmarks : m.attributes = decoration.attributes) :
    Builds .unittest start
      { draft.push (.method m) with tests := draft.tests ++ [m.name] } := by
  let bare : Method := { m with description := none, attributes := [] }
  have hadded : Builds .unittest start (draft.push (.method bare)) := h.method rfl rfl
  have htitled : Builds .unittest start (Draft.push { draft with tests := draft.tests ++ [m.name] }
      (.method { m with attributes := [] })) := by
    refine @ask _ _ _ _ (.describeTest m.name m.description) hadded (congrArg Except.ok ?_)
    rw [Draft.apply, draft.update_push bare]
    rfl
  have hmarked := htitled.markTest decoration
  rwa [← hmarks] at hmarked

end Builds

namespace TestClass

-- A method as the framework leaves it: a test has a title and the marks that its tags ask for, and
-- any other method has neither.
inductive IsDressed (m : Method) : Prop where
  | plain (untitled : m.description = none) (unmarked : m.attributes = [])
  | test {decoration : Decoration} (titled : m.description.isSome)
      (marked : m.attributes = decoration.attributes)

theorem IsPortion.isDressed {kind : Kind} {feature : Feature} {before : Nat} {scenario : Scenario}
    {p : Portion} (h : IsPortion kind feature before scenario p) :
    ∀ m ∈ p.methods, IsDressed m := by
  cases h with
  | plain _ _ _ => exact List.forall_mem_singleton.mpr (.test rfl rfl)
  | retried _ _ _ _ =>
      rw [List.forall_mem_cons, List.forall_mem_singleton]
      exact ⟨.test rfl rfl, .plain rfl rfl⟩
  | outline _ _ _ _ rows =>
      refine List.forall_mem_cons.mpr ⟨.plain rfl rfl, fun m hm => ?_⟩
      obtain ⟨examples, set, name, row, rfl⟩ := eq_variantMethod_of_mem rows m hm
      exact .test rfl rfl

-- One method after the other. Those with a title are the tests.
theorem builds_methods {start draft : Draft} {methods : List Method}
    (h : Builds .unittest start draft) (hdressed : ∀ m ∈ methods, IsDressed m) :
    Builds .unittest start
      { draft with
        shell := { draft.shell with members := draft.shell.members ++ methods.map .method }
        tests := draft.tests ++ (titled methods).map (·.name) } := by
  induction methods generalizing draft with
  | nil => simpa [titled] using h
  | cons m rest ih =>
      rw [List.forall_mem_cons] at hdressed
      obtain ⟨hfirst, hrest⟩ := hdressed
      cases hfirst with
      | plain untitled unmarked =>
          have hnext := ih (h.method untitled unmarked) hrest
          simpa [titled, untitled, Draft.push, ClassDecl.push] using hnext
      | test title marked =>
          have hnext := ih (h.test marked) hrest
          simpa [titled, title, Draft.push, ClassDecl.push] using hnext

-- The class of a feature before the framework is asked for anything.
def untouched (settings : Settings) (feature : Feature) (name : String) : Draft :=
  let generated := { generatedClass name with isPartial := true }
  { imports := [.of { name := settings.runtimeNamespace, members := some ["*"] }]
    shell := if settings.debugFiles then generated else generated.bindTo (baseName feature.path)
    frame }

theorem builds_shell (settings : Settings) (feature : Feature) (name : String) :
    Builds .unittest (untouched settings feature name)
      { imports := [.of { name := settings.runtimeNamespace, members := some ["*"] },
          .of frameworkImport]
        shell := (shell (.forUnittest settings) feature name).mark
          (decorationFor settings.kind (feature.tags.map (·.name))).attributes
        frame } := by
  have himport : (untouched settings feature name).imports.contains frameworkImport = false := by
    have hne : frameworkImport ≠ { name := settings.runtimeNamespace, members := some ["*"] } := by
      intro heq
      cases congrArg Import.members heq
    have hbeq := beq_eq_false_iff_ne.mpr hne
    exact Bool.or_eq_false_iff.mpr ⟨hbeq, rfl⟩
  have hopened := @Builds.ask .unittest (untouched settings feature name) _ _
    (.openClass (some feature.name) feature.description) .start rfl
  rw [Draft.apply, Draft.require, himport] at hopened
  exact hopened.markClass _

theorem members_shell (g : Generator) (feature : Feature) (name : String) :
    (shell g feature name).members = [] := by
  unfold shell
  dsimp only
  split <;> rfl

-- The class with the methods that frame it as a whole.
theorem builds_frame (settings : Settings) (feature : Feature) (name : String) :
    Builds .unittest (untouched settings feature name)
      { imports := [.of { name := settings.runtimeNamespace, members := some ["*"] },
          .of frameworkImport]
        shell :=
          { (shell (.forUnittest settings) feature name).mark
              (decorationFor settings.kind (feature.tags.map (·.name))).attributes with
            members := [runnerField, .method (classSetup {} settings.language feature),
              .method classCleanup] }
        frame
        classSetup := [.of classMethodAttribute]
        classCleanup := [.of classMethodAttribute] } := by
  have hasked := @Builds.ask _ _ _ _ .setUpClass (builds_shell settings feature name) rfl
  have hframed := @Builds.ask _ _ _ _ .cleanUpClass hasked rfl
  have hrunner := @Builds.field _ _ _ ⟨some (.of (typeNamed "ITestRunner")), Runner.field, none⟩
    hframed rfl
  have hsetup := @Builds.classSetup _ _ _
    { classSetup {} settings.language feature with attributes := [] } hrunner rfl rfl
  have hcleanup := @Builds.classCleanup _ _ _ { classCleanup with attributes := [] } hsetup rfl rfl
  have hempty := members_shell (.forUnittest settings) feature name
  generalize shell (.forUnittest settings) feature name = class₀ at hcleanup hempty ⊢
  obtain ⟨⟩ := class₀
  cases hempty
  exact hcleanup

theorem isDressed_portions {kind : Kind} {feature : Feature} {places : List (Nat × Scenario)}
    {ps : List Portion}
    (h : List.Forall₂ (fun place p => IsPortion kind feature place.1 place.2 p) places ps) :
    ∀ m ∈ ps.flatMap (·.methods), IsDressed m := by
  induction h with
  | nil => exact List.forall_mem_nil _
  | cons hp _ ih => exact List.forall_mem_append.mpr ⟨hp.isDressed, ih⟩

-- The class of a feature is what the framework makes of bare members on request.
theorem generate_builds {settings : Settings} {g : Generator}
    (hg : (Generator.ofSettings settings none).result = .ok g) {feature : Feature}
    {name target : Option String} {out : Generated}
    (hout : (generate g feature name target).result = .ok out) :
    ∃ draft, Builds g.framework
        (untouched settings feature (orElse name (className feature))) draft ∧
      out.source.imports = draft.imports ∧ out.source.classes = [draft.shell] := by
  cases Generator.ofSettings_eq_ok hg
  obtain ⟨given, ps, hgiven, -, hps, rfl⟩ := generate_eq_ok.mp hout
  have hframe := builds_frame settings feature (orElse name (className feature))
  have hrest : ∀ m ∈ [testSetup, testCleanup, scenarioSetup, scenarioCleanup] ++ given,
      m.description = none ∧ m.attributes = [] := by
    refine List.forall_mem_append.mpr ⟨?_, forall_mem_background hgiven fun _ => ⟨rfl, rfl⟩⟩
    simp only [List.forall_mem_cons]
    exact ⟨⟨rfl, rfl⟩, ⟨rfl, rfl⟩, ⟨rfl, rfl⟩, ⟨rfl, rfl⟩, List.forall_mem_nil _⟩
  have hmethods := builds_methods hframe (List.forall_mem_append.mpr
    ⟨fun m hm => .plain (hrest m hm).1 (hrest m hm).2, isDressed_portions hps⟩)
  have htests : (titled ([testSetup, testCleanup, scenarioSetup, scenarioCleanup] ++ given ++
      ps.flatMap (·.methods))).map (·.name) = ps.flatMap (·.tests) := by
    have hnone : titled ([testSetup, testCleanup, scenarioSetup, scenarioCleanup] ++ given) = [] :=
      List.filter_eq_nil_iff.mpr fun m hm => by simp [(hrest m hm).1]
    rw [titled_append, hnone, List.nil_append, names_titled hps]
  rw [htests] at hmethods
  have hfinished := @Builds.ask _ _ _ _ .finish hmethods rfl
  exact ⟨_, hfinished, rfl, rfl⟩

end TestClass

end Rehearsal
