import Rehearsal.Proofs.Command.Aftermath

namespace Rehearsal

-- There is no file below the directory that a path leads to, once that is made.
def FileTree.IsVacant (tree : FileTree) (directory : Path) : Prop :=
  ∀ made place, tree.makeDirectory directory = .ok made → made.locate directory = .ok place →
    tree.filesBelow place = []

namespace Command

variable {platform : Platform} {tree : FileTree} {environ : Environment} {options : Options}
  {features : List Feature} {g : TestClass.Generator} {directory : Path}

theorem mem_files_iff {modules : List (Feature × String)} {file : List String × ByteArray} :
    file ∈ Assoc.putAll [] (modules.map fileOf) ↔
      ∃ earlier feature text later, modules = earlier ++ (feature, text) :: later ∧
        (∀ m ∈ later, moduleName m.1 ≠ moduleName feature) ∧ file = fileOf (feature, text) := by
  obtain ⟨name, content⟩ := file
  rw [Assoc.mem_putAll]
  constructor
  · rintro ⟨front, back, hmodules, hback⟩
    obtain ⟨earlier, rest, rfl, hearlier, hrest⟩ := List.map_eq_append_iff.mp hmodules
    obtain ⟨⟨feature, text⟩, later, rfl, hfile, rfl⟩ := List.map_eq_cons_iff.mp hrest
    refine ⟨earlier, feature, text, later, rfl, ?_, hfile.symm⟩
    intro m hm hname
    apply hback
    have hkey : [moduleName m.1] = name := by
      rw [hname]
      exact congrArg Prod.fst hfile
    exact List.mem_map.mpr ⟨fileOf m, List.mem_map_of_mem hm, hkey⟩
  · rintro ⟨earlier, feature, text, later, rfl, hlater, hfile⟩
    refine ⟨earlier.map fileOf, later.map fileOf, ?_, ?_⟩
    · rw [List.map_append, List.map_cons, ← hfile]
    · rw [Assoc.keys, List.map_map, List.mem_map]
      rintro ⟨m, hm, hkey⟩
      have hname : [moduleName m.1] = [moduleName feature] :=
        hkey.trans (congrArg Prod.fst hfile)
      exact hlater m hm (List.singleton_inj.mp hname)

theorem keys_files {texts : List String} (h : features.length = texts.length) :
    Assoc.keys ((features.zip texts).map fileOf) = (features.map moduleName).map ([·]) := by
  have hfirst : (features.zip texts).map Prod.fst = features :=
    List.map_fst_zip (Nat.le_of_eq h)
  conv_rhs => rw [← hfirst]
  simp only [Assoc.keys, List.map_map]
  rfl

theorem length_files {texts : List String} (h : features.length = texts.length) :
    (Assoc.putAll [] ((features.zip texts).map fileOf)).length =
      (features.map moduleName).dedup.length := by
  have hinjective : Function.Injective fun name : String => [name] :=
    fun _ _ hname => List.singleton_inj.mp hname
  rw [Assoc.length_putAll, keys_files h, List.dedup_map_of_injective hinjective, List.length_map]

theorem length_dedup_eq_iff {names : List String} :
    names.dedup.length = names.length ↔ names.Nodup := by
  rw [← List.dedup_eq_self]
  exact ⟨(List.dedup_sublist names).eq_of_length, congrArg List.length⟩

-- The files of a run that succeeds: those of its modules, put one after the other.
theorem files_of_success (hprint : options.print = false)
    (hstarts : Starts platform tree environ options features g directory)
    (hvacant : tree.IsVacant directory) (hcode : (execute platform tree environ options).exitCode = 0) :
    ∃ place texts, (execute platform tree environ options).effects.tree.locate directory = .ok place ∧
      Renders g options.target features texts ∧
      (execute platform tree environ options).effects.tree.filesBelow place =
        Assoc.putAll [] ((features.zip texts).map fileOf) := by
  obtain ⟨heffects, ⟨-, hemit⟩ | ⟨hone, -⟩⟩ := execute_of_some hstarts.prepare
  · obtain ⟨texts, htexts, hdelivers⟩ := emit_eq_ok hemit
    obtain ⟨-, made, place, hmade, hlocate, hwrites, hfiles⟩ :=
      hdelivers.writes hprint (zip_ne_nil htexts hstarts.nonempty)
    rw [hvacant made place hmade hlocate] at hfiles
    rw [heffects]
    exact ⟨place, texts, hwrites.located, htexts, hfiles⟩
  · omega

theorem mem_files_of_nodup {texts : List String} (hlength : features.length = texts.length)
    (hnodup : (features.map moduleName).Nodup) :
    ∀ m ∈ features.zip texts, fileOf m ∈ Assoc.putAll [] ((features.zip texts).map fileOf) := by
  rintro ⟨feature, text⟩ hm
  obtain ⟨earlier, later, hmodules⟩ := List.append_of_mem hm
  refine mem_files_iff.mpr ⟨earlier, feature, text, later, hmodules, ?_, rfl⟩
  intro other hother hname
  have hfirst : (features.zip texts).map Prod.fst = features :=
    List.map_fst_zip (Nat.le_of_eq hlength)
  rw [← hfirst, hmodules] at hnodup
  simp only [List.map_append, List.map_cons, List.map_map] at hnodup
  have hlater := (List.nodup_cons.mp (List.nodup_append.mp hnodup).2.1).1
  exact hlater (List.mem_map.mpr ⟨other, hother, hname⟩)

-- A run leaves one file for each module name, with the source of the last feature that has it.
-- Every feature has a file of its own only if the names are distinct.
theorem execute_modules (hprint : options.print = false)
    (hstarts : Starts platform tree environ options features g directory)
    (hvacant : tree.IsVacant directory)
    (hcode : (execute platform tree environ options).exitCode = 0) :
    ∃ place texts files,
      (execute platform tree environ options).effects.tree.locate directory = .ok place ∧
      (execute platform tree environ options).effects.tree.filesBelow place = files ∧
      Renders g options.target features texts ∧
      (∀ file, file ∈ files ↔ ∃ earlier feature text later,
        features.zip texts = earlier ++ (feature, text) :: later ∧
        (∀ m ∈ later, moduleName m.1 ≠ moduleName feature) ∧
        file = ([moduleName feature], text.toUTF8)) ∧
      files.length = (features.map moduleName).dedup.length ∧
      ((files.length = features.length ∧
          ∀ m ∈ features.zip texts, ([moduleName m.1], m.2.toUTF8) ∈ files) ↔
        (features.map moduleName).Nodup) := by
  obtain ⟨place, texts, hlocate, htexts, hfiles⟩ :=
    files_of_success hprint hstarts hvacant hcode
  have hlength := htexts.length_eq
  refine ⟨place, texts, _, hlocate, hfiles, htexts, fun _ => mem_files_iff, length_files hlength, ?_⟩
  constructor
  · rintro ⟨hcount, -⟩
    rw [length_files hlength, ← List.length_map moduleName] at hcount
    exact length_dedup_eq_iff.mp hcount
  · intro hnodup
    have hcount := length_dedup_eq_iff.mpr hnodup
    rw [List.length_map] at hcount
    exact ⟨(length_files hlength).trans hcount, mem_files_of_nodup hlength hnodup⟩

section Pair

variable {first second name : String} {a b : Feature} {textA textB : String}

theorem emit_pair (ha : (source standard "" a).result = .ok textA)
    (hb : (source standard "" b).result = .ok textB) (hfirst : moduleName a = "test_ab.py")
    (hsecond : moduleName b = name) (hname : name = "test_ab.py" ∨ name = "test_b.py") :
    (emit platform standard {} (Path.ofString "generated") { tree := pair first second }
        [a, b]).1.tree = (begun first second textA).put ["generated", name] (.file textB.toUTF8) ∧
      (emit platform standard {} (Path.ofString "generated") { tree := pair first second }
        [a, b]).2.result = .ok () := by
  have hplace : (begun first second textA).isDirectoryAt ["generated"] := rfl
  have hagain : (deliver platform {} (Path.ofString "generated") ⟨begun first second textA, ""⟩ b
      textB).result =
        .ok ⟨(begun first second textA).put ["generated", name] (.file textB.toUTF8), ""⟩ := by
    rcases hname with rfl | rfl
    · apply deliver_generated hsecond hplace
      · exact FileTree.locate_eq_ok.mpr ⟨by decide, by decide, rfl⟩
      · exact Bool.false_ne_true
    · apply deliver_generated hsecond hplace
      · exact FileTree.locate_eq_ok.mpr ⟨by decide, by decide, rfl⟩
      · exact Bool.false_ne_true
  obtain ⟨heffects, hresult⟩ :=
    @emit_cons_delivered platform standard {} _ _ _ _ _ ha (deliver_pair hfirst textA) [b]
  obtain ⟨hlast, hdone⟩ := @emit_cons_delivered platform standard {} _ _ _ _ _ hb hagain []
  rw [heffects, hlast, hresult, hdone]
  exact ⟨rfl, rfl⟩

theorem exitCode_pair (hstarts : Starts platform (pair first second) [] {} [a, b] standard
      (Path.ofString "generated"))
    (hemit : (emit platform standard {} (Path.ofString "generated") { tree := pair first second }
      [a, b]).2.result = .ok ()) : (execute platform (pair first second) [] {}).exitCode = 0 := by
  obtain ⟨-, ⟨hcode, -⟩ | ⟨-, failure, hfailure⟩⟩ := execute_of_some hstarts.prepare
  · exact hcode
  · rw [hemit] at hfailure
    cases hfailure

theorem isVacant_pair : (pair first second).IsVacant (Path.ofString "generated") := by
  intro made place _ hlocate
  rw [locate_generated] at hlocate
  cases hlocate
  rfl

end Pair

def joined : Feature :=
  { name := "Ab", description := some "", scenarios := [{ name := "T", line := 2 }]
    language := some "en", path := "features/b.feature" }

def lone : Feature := { joined with name := "B" }

def distinct : FileTree := pair spacedText "Feature: B\nScenario: T\n"

def clashing : FileTree := pair spacedText "Feature: Ab\nScenario: T\n"

-- Two features with names of their own.
theorem execute_modules_distinct :
    (execute (Shell.platform false) distinct [] {}).exitCode = 0 ∧
    ((execute (Shell.platform false) distinct [] {}).effects.tree.filesBelow
      ["generated"]).length = 2 := by
  have hstarts : Starts (Shell.platform false) distinct [] {} [spaced, lone] standard
      (Path.ofString "generated") := starts_pair parse_spaced (by decide +kernel)
  obtain ⟨textA, ha⟩ := exists_source_spaced
  obtain ⟨textB, hb⟩ := @source_eq_ok "" lone (by decide +kernel)
  have hname : moduleName lone = "test_b.py" := by decide +kernel
  have hcode := exitCode_pair hstarts (emit_pair ha hb moduleName_spaced hname (.inr rfl)).2
  obtain ⟨place, texts, files, hlocate, hfiles, -, -, hlength, -⟩ :=
    execute_modules rfl hstarts isVacant_pair hcode
  have hgenerated := hlocate.symm.trans (locate_generated _)
  cases hgenerated
  refine ⟨hcode, ?_⟩
  rw [hfiles, hlength, List.map_cons, List.map_cons, List.map_nil, moduleName_spaced, hname]
  decide

-- The names of two features differ in a blank only, so one module takes the place of the other.
theorem execute_overwrites_module : ∃ text, (source standard "" joined).result = .ok text ∧
    collected clashing {} = .ok [spaced, joined] ∧
    (execute (Shell.platform false) clashing [] {}).exitCode = 0 ∧
    (execute (Shell.platform false) clashing [] {}).effects.tree.filesBelow ["generated"] =
      [(["test_ab.py"], text.toUTF8)] := by
  have hstarts : Starts (Shell.platform false) clashing [] {} [spaced, joined] standard
      (Path.ofString "generated") := starts_pair parse_spaced (by decide +kernel)
  obtain ⟨textA, ha⟩ := exists_source_spaced
  obtain ⟨textB, hb⟩ := @source_eq_ok "" joined (by decide +kernel)
  have hname : moduleName joined = "test_ab.py" := by decide +kernel
  have hemit := @emit_pair (Shell.platform false) spacedText "Feature: Ab\nScenario: T\n" _ _ _ _ _
    ha hb moduleName_spaced hname (.inl rfl)
  refine ⟨textB, hb, hstarts.collect, exitCode_pair hstarts hemit.2, ?_⟩
  rw [(execute_of_some hstarts.prepare).1, clashing, hemit.1]
  rfl

end Command

end Rehearsal
