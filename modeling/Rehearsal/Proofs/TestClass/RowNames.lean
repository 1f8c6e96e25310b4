import Mathlib.Data.List.Indexes
import Mathlib.Data.List.FinRange
import Mathlib.Data.List.Pairwise
import Rehearsal.Proofs.TestClass.Callees
import Rehearsal.Proofs.Text.Blank

namespace Rehearsal

namespace Identifier

theorem toNat_of_isDigit {c : Char} (h : c.isDigit) : 48 ≤ c.toNat ∧ c.toNat ≤ 57 := by
  simp only [Char.isDigit, Bool.and_eq_true, decide_eq_true_eq, ge_iff_le,
    UInt32.le_iff_toNat_le] at h
  exact h

theorem isWordChar_of_isDigit {c : Char} (h : c.isDigit) : Text.isWordChar c := by
  have hascii : c.toNat < 128 := by
    have := toNat_of_isDigit h
    omega
  rw [Text.isWordChar, if_pos hascii, Char.isAlphanum, h, Bool.or_true, Bool.true_or]

theorem upperChar_of_isDigit {c : Char} (h : c.isDigit) : Text.upperChar c = [c] := by
  have hnumber := toNat_of_isDigit h
  have hlower : ¬(c.val ≥ 'a'.val ∧ c.val ≤ 'z'.val) := by
    rintro ⟨hfrom, -⟩
    rw [ge_iff_le, UInt32.le_iff_toNat_le] at hfrom
    have hval : c.val.toNat = c.toNat := rfl
    have ha : 'a'.val.toNat = 97 := by decide
    omega
  have hsame : c.toUpper = c := by
    unfold Char.toUpper
    rw [dif_neg hlower]
  rw [Text.upperChar, if_pos (by omega), hsame]

theorem isDigit_of_mem_toString {n : Nat} {c : Char} (h : c ∈ (toString n).toList) : c.isDigit := by
  rw [Nat.toString_eq_repr, Nat.toList_repr] at h
  exact Nat.isDigit_of_mem_toDigits (by decide) (by decide) h

theorem toString_inj {m n : Nat} (h : toString m = toString n) : m = n := by
  have hread : ∀ k : Nat, Nat.ofDigitChars 10 (toString k).toList 0 = k := by
    intro k
    rw [Nat.toString_eq_repr, Nat.toList_repr]
    exact Nat.ofDigitChars_toDigits (by decide) (by decide)
  rw [← hread m, h, hread n]

theorem runs_toString (n : Nat) :
    Text.runs Text.isWordChar (toString n).toList = [(toString n).toList] := by
  have hne : (toString n).toList ≠ [] := by
    rw [Nat.toString_eq_repr, Nat.toList_repr]
    exact Nat.toDigits_ne_nil
  have hrun := @Text.runs_append Text.isWordChar _ [] hne
    (fun c hc => isWordChar_of_isDigit (isDigit_of_mem_toString hc)) rfl
  rwa [List.append_nil] at hrun

theorem capitalized_toString (n : Nat) : capitalized (toString n).toList = (toString n).toList := by
  have hdigits : ∀ c ∈ (toString n).toList, c.isDigit := fun c hc => isDigit_of_mem_toString hc
  cases hlist : (toString n).toList with
  | nil => rfl
  | cons c rest =>
      rw [hlist, List.forall_mem_cons] at hdigits
      rw [capitalized, upperChar_of_isDigit hdigits.1, List.singleton_append]

-- A number stays as it is in an identifier, and so does the word before it.
theorem bare_numbered (n : Nat) : bare ("Variant " ++ toString n) = "Variant" ++ toString n := by
  have hsplit : ("Variant " ++ toString n).toList =
      "Variant".toList ++ ' ' :: (toString n).toList := by
    rw [String.toList_append]
    rfl
  have hruns : Text.runs Text.isWordChar ("Variant".toList ++ ' ' :: (toString n).toList) =
      ["Variant".toList, (toString n).toList] := by
    rw [Text.runs_append (by decide) (List.all_eq_true.mp rfl) rfl]
    exact congrArg _ (runs_toString n)
  have hpascal : pascalChars ("Variant " ++ toString n).toList =
      "Variant".toList ++ (toString n).toList := by
    rw [pascalChars, hsplit, hruns, List.flatMap_cons, List.flatMap_singleton, capitalized_toString]
    rfl
  rw [bare, hpascal]
  apply String.toList_inj.mp
  rw [String.toList_ofList, String.toList_append]
  rfl

end Identifier

namespace Outline

theorem nodup_mapIdx {α β : Type} {f : Nat → β} (hf : Function.Injective f) (l : List α) :
    (l.mapIdx fun index _ => f index).Nodup := by
  rw [List.mapIdx_eq_ofFn, List.nodup_ofFn]
  exact hf.comp Fin.val_injective

theorem numbered_injective (word : String) :
    Function.Injective fun n : Nat => word ++ toString n := by
  intro m n h
  exact Identifier.toString_inj ((String.append_right_inj word).mp h)

theorem nodup_setIdentifiers (sets : List Examples) : (setIdentifiers sets).Nodup := by
  unfold setIdentifiers
  split
  · exact List.nodup_singleton none
  · dsimp only
    split
    · rename_i hdistinct
      exact hdistinct.map (Option.some_injective _)
    · exact nodup_mapIdx (fun _ _ h => numbered_injective "ExampleSet" (Option.some.inj h)) sets

-- A set has an identifier unless it is the only one.
theorem isSome_of_mem_setIdentifiers {sets : List Examples} (h : 1 < sets.length) :
    ∀ identifier ∈ setIdentifiers sets, identifier.isSome := by
  unfold setIdentifiers
  split
  · simp at h
  · intro identifier hmem
    dsimp only at hmem
    split at hmem
    · obtain ⟨_, -, rfl⟩ := List.mem_map.mp hmem
      rfl
    · obtain ⟨_, _, rfl⟩ := List.mem_mapIdx.mp hmem
      rfl

-- The rows of one set have identifiers of their own.
theorem nodup_bare_variantNames (first : List String) :
    ((variantNames first).map Identifier.bare).Nodup := by
  unfold variantNames
  dsimp only
  split
  · rename_i hnamed
    exact of_decide_eq_true (Bool.and_eq_true_iff.mp hnamed).2
  · rw [List.mapIdx_eq_ofFn, List.map_ofFn, List.nodup_ofFn]
    intro i j h
    simp only [Function.comp_apply, Identifier.bare_numbered] at h
    exact Fin.ext (numbered_injective "Variant" h)

-- What a longer first part has beyond a shorter one starts the second part that goes with that.
theorem exists_more {a b v w : String} {rest : List Char} (hne : a ≠ b)
    (hb : b.toList = a.toList ++ rest) (hv : '_' :: v.toList = rest ++ '_' :: w.toList) :
    ∃ more, b = a ++ "_" ++ more ∧ v = more ++ "_" ++ w := by
  cases rest with
  | nil => exact absurd (String.toList_inj.mp (by simpa using hb.symm)) hne
  | cons c more =>
      obtain ⟨rfl, hv⟩ := List.cons.inj hv
      refine ⟨String.ofList more, String.toList_inj.mp ?_, String.toList_inj.mp ?_⟩
      · simpa [String.toList_append] using hb
      · simpa [String.toList_append] using hv

-- Two names that are joined from different parts are the same if one of the first parts goes on,
-- after an underscore, like the start of the other name's second part.
theorem joined_eq_iff {a b v w : String} (hne : a ≠ b) :
    a ++ "_" ++ v = b ++ "_" ++ w ↔
      (∃ more, b = a ++ "_" ++ more ∧ v = more ++ "_" ++ w) ∨
        ∃ more, a = b ++ "_" ++ more ∧ w = more ++ "_" ++ v := by
  constructor
  · intro h
    have hchars : a.toList ++ '_' :: v.toList = b.toList ++ '_' :: w.toList := by
      simpa [String.toList_append] using congrArg String.toList h
    rcases List.append_eq_append_iff.mp hchars with ⟨rest, hb, hv⟩ | ⟨rest, ha, hw⟩
    · exact .inl (exists_more hne hb hv)
    · exact .inr (exists_more hne.symm ha hw)
  · rintro (⟨more, rfl, rfl⟩ | ⟨more, rfl, rfl⟩)
    · simp only [String.append_assoc]
    · simp only [String.append_assoc]

theorem variantMethodName_injective {scenario : Scenario} {set : Option String} {v w : String}
    (h : variantMethodName scenario set v = variantMethodName scenario set w) :
    Identifier.bare v = Identifier.bare w := by
  cases set <;> exact (String.append_right_inj _).mp h

theorem variantMethodName_eq_iff {scenario : Scenario} {a b v w : String} (hne : a ≠ b) :
    variantMethodName scenario (some a) v = variantMethodName scenario (some b) w ↔
      (∃ more, b = a ++ "_" ++ more ∧ Identifier.bare v = more ++ "_" ++ Identifier.bare w) ∨
        ∃ more, a = b ++ "_" ++ more ∧ Identifier.bare w = more ++ "_" ++ Identifier.bare v := by
  rw [← joined_eq_iff hne, variantMethodName, variantMethodName]
  simp only [String.append_assoc, String.append_right_inj]

end Outline

namespace TestClass

open Outline Code

-- The sets of examples of an outline, each with its identifier.
def namedSets (scenario : Scenario) : List (Examples × Option String) :=
  scenario.examples.zip (setIdentifiers scenario.examples)

-- What the rows of a set go by.
def variantsIn (examples : Examples) : List String := (namesOf examples).toOption.getD []

def namesIn (scenario : Scenario) (set : Examples × Option String) : List String :=
  (variantsIn set.1).map (variantMethodName scenario set.2)

-- The identifier of the longer set is that of the shorter one, and goes on like a row of that one
-- up to a row of its own.
def Overlap (shorter longer : Examples × Option String) : Prop :=
  ∃ identifier more, shorter.2 = some identifier ∧
    longer.2 = some (identifier ++ "_" ++ more) ∧
    ∃ v ∈ variantsIn shorter.1, ∃ w ∈ variantsIn longer.1,
      Identifier.bare v = more ++ "_" ++ Identifier.bare w

theorem Overlap.ne {s t : Examples × Option String} (h : Overlap s t) : s ≠ t := by
  obtain ⟨identifier, more, hs, ht, -⟩ := h
  rintro rfl
  have hlength := congrArg String.length (Option.some.inj (hs.symm.trans ht))
  simp only [String.length_append] at hlength
  have hone : "_".length = 1 := rfl
  omega

theorem nodup_map_snd_namedSets (scenario : Scenario) :
    ((namedSets scenario).map Prod.snd).Nodup := by
  rw [namedSets, List.map_snd_zip (Nat.le_of_eq (length_setIdentifiers _))]
  exact nodup_setIdentifiers scenario.examples

theorem nodup_namesIn (scenario : Scenario) (set : Examples × Option String) :
    (namesIn scenario set).Nodup := by
  have hbare : ((variantsIn set.1).map Identifier.bare).Nodup := by
    unfold variantsIn namesOf
    cases set.1.rows.mapM firstCell? with
    | none => exact List.nodup_nil
    | some first => exact nodup_bare_variantNames first
  refine List.Nodup.map_on ?_ (List.Nodup.of_map _ hbare)
  intro v hv w hw h
  exact List.inj_on_of_nodup_map hbare hv hw (variantMethodName_injective h)

theorem Overlap.exists_shared {s t : Examples × Option String} (h : Overlap s t)
    (scenario : Scenario) : ∃ name ∈ namesIn scenario s, name ∈ namesIn scenario t := by
  obtain ⟨identifier, more, hs, ht, v, hv, w, hw, hbare⟩ := h
  refine ⟨_, List.mem_map_of_mem hv, List.mem_map.mpr ⟨w, hw, ?_⟩⟩
  rw [hs, ht, variantMethodName, variantMethodName, hbare]
  simp only [String.append_assoc]

-- Where there are two sets, both have identifiers, and these differ.
theorem exists_identifiers {scenario : Scenario} {s t : Examples × Option String}
    (hs : s ∈ namedSets scenario) (ht : t ∈ namedSets scenario) (hne : s ≠ t) :
    ∃ a b, s.2 = some a ∧ t.2 = some b ∧ a ≠ b := by
  have hseveral : 1 < scenario.examples.length := by
    have hlength : (namedSets scenario).length = scenario.examples.length := by
      rw [namedSets, List.length_zip, length_setIdentifiers, Nat.min_self]
    rw [← hlength]
    cases hsets : namedSets scenario with
    | nil => simp [hsets] at hs
    | cons first rest =>
        cases rest with
        | nil =>
            rw [hsets, List.mem_singleton] at hs ht
            exact absurd (hs.trans ht.symm) hne
        | cons second others => simp
  have hsome := isSome_of_mem_setIdentifiers hseveral
  obtain ⟨a, ha⟩ := Option.isSome_iff_exists.mp (hsome _ (List.of_mem_zip hs).2)
  obtain ⟨b, hb⟩ := Option.isSome_iff_exists.mp (hsome _ (List.of_mem_zip ht).2)
  refine ⟨a, b, ha, hb, ?_⟩
  rintro rfl
  exact hne (List.inj_on_of_nodup_map (nodup_map_snd_namedSets scenario) hs ht (ha.trans hb.symm))

-- Two sets share a name where one of them overlaps the other.
theorem disjoint_namesIn_iff {scenario : Scenario} {s t : Examples × Option String}
    (hs : s ∈ namedSets scenario) (ht : t ∈ namedSets scenario) (hne : s ≠ t) :
    (namesIn scenario s).Disjoint (namesIn scenario t) ↔ ¬Overlap s t ∧ ¬Overlap t s := by
  constructor
  · intro hapart
    refine ⟨fun h => ?_, fun h => ?_⟩
    · obtain ⟨name, hin, hother⟩ := h.exists_shared scenario
      exact hapart hin hother
    · obtain ⟨name, hin, hother⟩ := h.exists_shared scenario
      exact hapart hother hin
  · rintro ⟨hst, hts⟩ name hname hother
    obtain ⟨a, b, ha, hb, hab⟩ := exists_identifiers hs ht hne
    obtain ⟨v, hv, rfl⟩ := List.mem_map.mp hname
    obtain ⟨w, hw, hsame⟩ := List.mem_map.mp hother
    rw [ha, hb] at hsame
    rcases (variantMethodName_eq_iff hab).mp hsame.symm with ⟨more, rfl, hbare⟩ | ⟨more, rfl, hbare⟩
    · exact hst ⟨a, more, ha, hb, v, hv, w, hw, hbare⟩
    · exact hts ⟨b, more, hb, ha, w, hw, v, hv, hbare⟩

theorem nodup_rowNames_iff (scenario : Scenario) :
    (rowNames scenario).Nodup ↔
      ∀ s ∈ namedSets scenario, ∀ t ∈ namedSets scenario, ¬Overlap s t := by
  have hrows : rowNames scenario = (namedSets scenario).flatMap (namesIn scenario) := rfl
  have hnodup : (namedSets scenario).Nodup := List.Nodup.of_map _ (nodup_map_snd_namedSets scenario)
  rw [hrows, List.nodup_flatMap]
  constructor
  · rintro ⟨-, hapart⟩ s hs t ht hoverlap
    have : Std.Symm (Function.onFun List.Disjoint (namesIn scenario)) :=
      ⟨fun _ _ h _ hin hother => h hother hin⟩
    have hdisjoint := hapart.forall hs ht hoverlap.ne
    exact ((disjoint_namesIn_iff hs ht hoverlap.ne).mp hdisjoint).1 hoverlap
  · intro h
    refine ⟨fun set _ => nodup_namesIn scenario set, ?_⟩
    refine hnodup.pairwise_of_forall_ne fun s hs t ht hne => ?_
    exact (disjoint_namesIn_iff hs ht hne).mpr ⟨h s hs t ht, h t ht s hs⟩

-- The tests for the rows of one set have names of their own. Tests of two sets have the same name
-- exactly if the sets overlap: their identifiers differ, but not the names joined from them.
theorem row_tests_nodup_iff {settings : Settings} {g : Generator}
    (hg : (Generator.ofSettings settings none).result = .ok g) {feature : Feature} {before : Nat}
    {scenario : Scenario} {p : Portion} (hseveral : scenario.isOutline)
    (hp : (portion g feature before scenario).result = .ok p) :
    (∃ parts : List (List String), p.tests = parts.flatten ∧
      List.Forall₂ (fun examples names => names.length = examples.rows.length ∧ names.Nodup)
        scenario.examples parts) ∧
    p.methods.map (·.name) = methodName scenario :: p.tests ∧
    (p.tests.Nodup ↔ ∀ s ∈ namedSets scenario, ∀ t ∈ namedSets scenario, ¬Overlap s t) := by
  cases Generator.ofSettings_eq_ok hg
  obtain ⟨-, hportion⟩ := portion_eq_ok.mp hp
  cases hportion with
  | plain single => simp [hseveral] at single
  | retried single => simp [hseveral] at single
  | @outline _ _ _ variants _ _ _ _ rows =>
      have hnames : variants.flatten.map (·.name) = rowNames scenario := names_of_isVariants rows
      refine ⟨⟨variants.map (·.map (·.name)), List.map_flatten, ?_⟩, rfl, ?_⟩
      · rw [List.forall₂_map_right_iff]
        apply forall₂_examples rows
        rintro set methods ⟨-, hmethods⟩
        refine ⟨?_, ?_⟩
        · obtain ⟨names, hlisted, rfl⟩ := hmethods
          simp [length_namesOf hlisted]
        · rw [hmethods.names]
          exact nodup_namesIn scenario set
      · rw [hnames]
        exact nodup_rowNames_iff scenario

-- The identifier of the second set goes on like the row of the first.
def tasting (cell : String) : Scenario :=
  { name := "Pour"
    steps := [{ keyword := some "Given ", role := .given, text := some "a <wine>", line := 3 }]
    examples := [
      { name := "red", header := some [some "wine"], rows := [[some "Dry_Old"]], line := 4 },
      { name := "red_Dry", header := some [some "wine"], rows := [[some cell]], line := 7 }]
    line := 2 }

theorem row_tests_nodup_tasting : ∃ g p,
    (Generator.ofSettings {} none).result = .ok g ∧
    (portion g { name := "Wine" } 0 (tasting "new")).result = .ok p ∧
    p.tests = ["Pour_red_Dry_Old", "Pour_red_Dry_New"] ∧
    ∀ s ∈ namedSets (tasting "new"), ∀ t ∈ namedSets (tasting "new"), ¬Overlap s t := by
  obtain ⟨-, -, hdistinct⟩ :=
    @row_tests_nodup_iff {} _ rfl { name := "Wine" } 0 (tasting "new") _ rfl rfl
  exact ⟨_, _, rfl, rfl, by decide, hdistinct.mp (by decide)⟩

def tastingText : String :=
  "Feature: Wine\nScenario Outline: Pour\nGiven a <wine>\n" ++
  "Examples: red\n| wine |\n| Dry_Old |\nExamples: red_Dry\n| wine |\n| old |\n"

-- Two sets with different identifiers, each with one row, come to one name.
theorem row_tests_collide_tasting :
    Feature.parse "" tastingText = .ok { name := "Wine", scenarios := [tasting "old"] } ∧
    setIdentifiers (tasting "old").examples = [some "red", some "red_Dry"] ∧
    ∃ g out c, (Generator.ofSettings {} none).result = .ok g ∧
      (generate g { name := "Wine", scenarios := [tasting "old"] } none none).result = .ok out ∧
      out.source.classes = [c] ∧ (c.methods.map (·.name)).count "Pour_red_Dry_Old" = 2 :=
  ⟨by decide +kernel, by decide +kernel, _, _, _, rfl, rfl, rfl, by decide⟩

end TestClass

end Rehearsal
