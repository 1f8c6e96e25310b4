import Rehearsal.Proofs.Command.Emission
import Rehearsal.Proofs.Command.Preparation
import Rehearsal.Proofs.Shell.Terminal

namespace Rehearsal.Command

-- What a run leaves behind wherever it stops.
structure Leaves (isTerminal : Bool) (platform : Platform) (tree : FileTree)
    (environ : Environment) (options : Options) (outcome : Outcome) : Prop where
  unstarted : FailsToStart platform tree environ options →
    outcome.exitCode = 1 ∧ outcome.effects = { tree }
  idle : ∀ store settings, Loads platform tree environ options store settings →
    collected tree options = .ok [] → outcome.exitCode = 0 ∧ outcome.effects = { tree }
  -- The feature is the first without a source, and no file keeps the others from being written.
  halted : options.print = false →
    ∀ g directory done feature rest texts failure,
      Starts platform tree environ options (done ++ feature :: rest) g directory →
      Renders g options.target done texts →
      (source g options.target feature).result = .error failure →
      (∀ error, (emit platform g options directory { tree } (done ++ feature :: rest)).2.result ≠
        .error (.file error)) →
      outcome.exitCode = 1 ∧ outcome.effects.output = "" ∧
        (done = [] → outcome.effects.tree = tree) ∧
        (done ≠ [] → ∃ place, Writes tree directory place (done.zip texts) outcome.effects.tree)
  cutShort : options.print →
    ∀ g directory done feature rest texts failure,
      Starts platform tree environ options (done ++ feature :: rest) g directory →
      Renders g options.target done texts →
      (source g options.target feature).result = .error failure →
      outcome.exitCode = 1 ∧ ∃ shown, List.Forall₂ (Shell.Shows isTerminal) texts shown ∧
        outcome.effects = { tree, output := String.join (shown.map (· ++ "\n")) } ∧
        ((∀ text ∈ texts, '\x1b' ∉ text.toList) → shown = texts)
  printed : options.print → outcome.effects.tree = tree

variable {platform : Platform} {tree : FileTree} {environ : Environment} {options : Options}

theorem exitCode_of_failure {features : List Feature} {g : TestClass.Generator} {directory : Path}
    {failure : Failure} (hstarts : Starts platform tree environ options features g directory)
    (h : (emit platform g options directory { tree } features).2.result = .error failure) :
    (execute platform tree environ options).exitCode = 1 := by
  obtain ⟨-, ⟨-, hok⟩ | ⟨hcode, -⟩⟩ := execute_of_some hstarts.prepare
  · rw [h] at hok
    cases hok
  · exact hcode

theorem tree_of_print (hprint : options.print) :
    (execute platform tree environ options).effects.tree = tree := by
  cases hprepare : (prepare platform tree environ options).result with
  | error failure => rw [(execute_of_error hprepare).2]
  | ok preparation =>
      obtain ⟨features, _ | ⟨g, directory⟩⟩ := preparation
      · rw [(execute_of_none hprepare).2]
      · rw [(execute_of_some hprepare).1]
        exact (emit_of_print hprint features).1

theorem zip_ne_nil {g : TestClass.Generator} {done : List Feature} {texts : List String}
    (hsources : Renders g options.target done texts) (h : done ≠ []) : done.zip texts ≠ [] := by
  cases hsources with
  | nil => exact absurd rfl h
  | cons _ _ => exact List.cons_ne_nil _ _

theorem exists_shown {isTerminal : Bool} {print : String → String}
    (h : Shell.Echoes isTerminal print) (texts : List String) : ∃ shown,
      List.Forall₂ (Shell.Shows isTerminal) texts shown ∧
        texts.map print = shown.map (· ++ "\n") := by
  induction texts with
  | nil => exact ⟨[], .nil, rfl⟩
  | cons text rest ih =>
      obtain ⟨first, hfirst, hprint⟩ := h text
      obtain ⟨others, hothers, hrest⟩ := ih
      exact ⟨first :: others, .cons hfirst hothers, by rw [List.map_cons, List.map_cons, hprint, hrest]⟩

theorem shown_eq_of_plain {isTerminal : Bool} {texts shown : List String}
    (h : List.Forall₂ (Shell.Shows isTerminal) texts shown)
    (hplain : ∀ text ∈ texts, '\x1b' ∉ text.toList) : shown = texts := by
  induction h with
  | nil => rfl
  | cons hfirst _ ih =>
      rw [List.forall_mem_cons] at hplain
      rw [hfirst.eq_of_plain hplain.1, ih hplain.2]

-- Modules are written only for the features in front of the first one without a source. A run that
-- stops before its first feature, and one that prints, leave all files as they were. What is printed
-- are the sources in their order, without what only a terminal is sent.
theorem execute_leaves {isTerminal : Bool} (hechoes : Shell.Echoes isTerminal platform.print)
    (tree : FileTree) (environ : Environment) (options : Options) :
    Leaves isTerminal platform tree environ options (execute platform tree environ options) where
  unstarted h := by
    obtain ⟨failure, hfailure⟩ := h.prepare
    exact execute_of_error hfailure
  idle store settings hloads hnone := execute_of_none (hloads.prepare_idle hnone)
  halted hprint g directory done feature rest texts failure hstarts hsources hfault hfiles := by
    obtain ⟨hdelivers, hfailure⟩ := emit_of_error hsources hfault hfiles
    have heffects := (execute_of_some hstarts.prepare).1
    refine ⟨exitCode_of_failure hstarts hfailure, ?_⟩
    rw [heffects]
    by_cases hdone : done = []
    · subst hdone
      rw [List.nil_append, (emit_cons_error hfault directory { tree } rest).1]
      exact ⟨rfl, fun _ => rfl, fun hne => absurd rfl hne⟩
    · obtain ⟨houtput, -, place, -, -, hwrites, -⟩ :=
        hdelivers.writes hprint (zip_ne_nil hsources hdone)
      exact ⟨houtput, fun hnil => absurd hnil hdone, fun _ => ⟨place, hwrites⟩⟩
  cutShort hprint g directory done feature rest texts failure hstarts hsources hfault := by
    obtain ⟨hdelivers, hfailure⟩ := emit_of_error hsources hfault (emit_of_print hprint _).2
    have heffects := (execute_of_some hstarts.prepare).1
    obtain ⟨shown, hshown, hprinted⟩ := exists_shown hechoes texts
    have htexts : (done.zip texts).map (fun m => platform.print m.2) = texts.map platform.print := by
      have hsecond := List.map_snd_zip (Nat.le_of_eq hsources.length_eq.symm)
      conv_rhs => rw [← hsecond, List.map_map]
      rfl
    refine ⟨exitCode_of_failure hstarts hfailure, shown, hshown, ?_, shown_eq_of_plain hshown⟩
    rw [heffects, hdelivers.eq_of_print hprint, htexts, String.empty_append, hprinted]
  printed := tree_of_print

-- The generator for the default settings.
def standard : TestClass.Generator :=
  { settings := {}, framework := .unittest, policies := TestClass.Generator.policiesFor .retry }

-- A working directory with two files of features.
def pair (first second : String) : FileTree :=
  ⟨[(["features"], .directory), (["features", "a.feature"], .file first.toUTF8),
    (["features", "b.feature"], .file second.toUTF8)]⟩

-- The same directory with the first module.
def begun (first second text : String) : FileTree :=
  ((pair first second).put ["generated"] .directory).put ["generated", "test_ab.py"]
    (.file text.toUTF8)

section Pair

variable {first second : String} {a b : Feature} {print : Bool} {target : String}

theorem ofFile_of_parse {tree : FileTree} {place : List String} {text name : String}
    {feature : Feature} (hlocate : tree.locate (Path.ofString name) = .ok place)
    (hnode : tree.node? place = some (.file text.toUTF8))
    (hname : (Path.ofString name).toString = name)
    (hparse : Feature.parse name (String.ofList (Text.feeds text.toList)) = .ok feature) :
    Feature.ofFile tree (Path.ofString name) = .ok feature := by
  rw [Feature.ofFile, FileTree.read_of_node? hlocate hnode, hname]
  simp only [Except.mapError, bind, Except.bind, hparse]

theorem collected_pair
    (ha : Feature.parse "features/a.feature" (String.ofList (Text.feeds first.toList)) = .ok a)
    (hb : Feature.parse "features/b.feature" (String.ofList (Text.feeds second.toList)) = .ok b) :
    collected (pair first second) { print, target } = .ok [a, b] := by
  have hplace : (pair first second).locate (Path.ofString "features") = .ok ["features"] :=
    FileTree.locate_eq_ok.mpr ⟨by decide, by decide, rfl⟩
  have hsorted : [["a.feature"], ["b.feature"]].Pairwise
      fun parts others => Path.comesBefore parts others := by decide
  have hfind : (pair first second).find (Path.ofString "features") Feature.fileEnding =
      .ok [Path.ofString "features/a.feature", Path.ofString "features/b.feature"] :=
    FileTree.find_of_pairwise hplace rfl rfl hsorted
  have hfirst : Feature.ofFile (pair first second) (Path.ofString "features/a.feature") = .ok a :=
    ofFile_of_parse (FileTree.locate_eq_ok.mpr ⟨by decide, by decide, rfl⟩) rfl (by decide) ha
  have hsecond : Feature.ofFile (pair first second) (Path.ofString "features/b.feature") = .ok b :=
    ofFile_of_parse (FileTree.locate_eq_ok.mpr ⟨by decide, by decide, rfl⟩) rfl (by decide) hb
  have hwanted : Feature.wantedTags [] = [] := by simp [Feature.wantedTags]
  simp [collected, Feature.collect, hfind, hwanted, Feature.collectFiles, hfirst, hsecond,
    Feature.select, Except.mapError, Except.bind, Except.map]

theorem ofConfig_default : Settings.ofConfig platform { fields := defaultFields } = .ok {} :=
  rfl

theorem starts_pair
    (ha : Feature.parse "features/a.feature" (String.ofList (Text.feeds first.toList)) = .ok a)
    (hb : Feature.parse "features/b.feature" (String.ofList (Text.feeds second.toList)) = .ok b) :
    Starts platform (pair first second) [] { print, target } [a, b] standard
      (Path.ofString "generated") := by
  have hgenerator : (TestClass.Generator.ofSettings {} none).result = .ok standard := rfl
  have hdirectory : directoryOf {} { config := { fields := defaultFields } } =
      .ok (Path.ofString "generated") := by decide +kernel
  refine ⟨collected_pair ha hb, List.cons_ne_nil _ _, { config := { fields := defaultFields } }, {},
    ?_⟩
  exact ⟨⟨⟨_, rfl⟩, rfl, ofConfig_default⟩, hgenerator, hdirectory⟩

theorem locate_generated (tree : FileTree) :
    tree.locate (Path.ofString "generated") = .ok ["generated"] :=
  FileTree.locate_eq_ok.mpr ⟨by decide, by decide, rfl⟩

theorem deliver_generated {tree : FileTree} {feature : Feature} {name : String}
    (hname : moduleName feature = name) (hplace : tree.isDirectoryAt ["generated"])
    (hlocate : tree.locate ((Path.ofString "generated").child name) = .ok ["generated", name])
    (hnot : ¬ tree.isDirectoryAt ["generated", name]) (text : String) :
    (deliver platform {} (Path.ofString "generated") { tree } feature text).result =
      .ok ⟨tree.put ["generated", name] (.file text.toUTF8), ""⟩ := by
  have hthere : tree.isDirectory (Path.ofString "generated") :=
    FileTree.isDirectory_iff.mpr ⟨["generated"], locate_generated tree, hplace⟩
  have hwrite : tree.write ((Path.ofString "generated").child name) text =
      .ok (tree.put ["generated", name] (.file text.toUTF8)) :=
    FileTree.write_eq_ok.mpr ⟨_, hlocate, hnot, hplace, rfl⟩
  rw [deliver_write rfl, withModule, FileTree.makeDirectory_of_isDirectory hthere, hname]
  simp only [Except.bind, hwrite, Except.mapError, Except.map]

-- The first module brings the directory with it.
theorem deliver_pair {feature : Feature} (hname : moduleName feature = "test_ab.py")
    (text : String) :
    (deliver platform {} (Path.ofString "generated") { tree := pair first second } feature text).result =
      .ok ⟨begun first second text, ""⟩ := by
  have hlocate := locate_generated (pair first second)
  have hthere := (FileTree.opens_put hlocate rfl).isDirectory
  have hmade := @deliver_generated platform ((pair first second).put ["generated"] .directory) feature
    "test_ab.py" hname rfl (FileTree.locate_eq_ok.mpr ⟨by decide, by decide, rfl⟩)
    Bool.false_ne_true text
  rw [deliver_write rfl, withModule, FileTree.makeDirectory_of_isDirectory hthere] at hmade
  rw [deliver_write rfl, withModule, FileTree.makeDirectory_of_none hlocate rfl]
  exact hmade

end Pair

theorem source_eq_ok {target : String} {feature : Feature}
    (h : (source standard target feature).result.isOk) :
    ∃ text, (source standard target feature).result = .ok text := by
  cases hsource : (source standard target feature).result with
  | error failure =>
      rw [hsource] at h
      cases h
  | ok text => exact ⟨text, rfl⟩

def spacedText : String := "Feature: A b\nScenario: S\n"

def spaced : Feature :=
  { name := "A b", description := some "", scenarios := [{ name := "S", line := 2 }]
    language := some "en", path := "features/a.feature" }

theorem parse_spaced : Feature.parse "features/a.feature"
    (String.ofList (Text.feeds spacedText.toList)) = .ok spaced := by decide +kernel

theorem moduleName_spaced : moduleName spaced = "test_ab.py" := by decide +kernel

theorem exists_source_spaced : ∃ text, (source standard "" spaced).result = .ok text :=
  source_eq_ok (by decide +kernel)

def untitledText : String := "Feature: B\nScenario:\n"

def untitled : Feature :=
  { name := "B", description := some "", scenarios := [{ name := "", line := 2 }]
    language := some "en", path := "features/b.feature" }

def halting : FileTree := pair spacedText untitledText

theorem starts_halting {print : Bool} {target : String} :
    Starts platform halting [] { print, target } [spaced, untitled] standard
      (Path.ofString "generated") := starts_pair parse_spaced (by decide +kernel)

-- The scenario of the second feature has no title, so the first module is written or printed and no
-- other one.
theorem execute_leaves_halting : ∃ text shown, (source standard "" spaced).result = .ok text ∧
    (execute (Shell.platform false) halting [] {}).exitCode = 1 ∧
    (execute (Shell.platform false) halting [] {}).effects.tree.node? ["generated", "test_ab.py"] =
      some (.file text.toUTF8) ∧
    Shell.Shows false text shown ∧
    (execute (Shell.platform false) halting [] { print := true }).effects =
      { tree := halting, output := shown ++ "\n" } := by
  have hechoes : Shell.Echoes false (Shell.platform false).print := Shell.echoes_print false
  have hfault : (source standard "" untitled).result = .error (.generate .untitled) := by
    decide +kernel
  obtain ⟨text, htext⟩ := exists_source_spaced
  have hsources : Renders standard "" [spaced] [text] := .cons htext .nil
  have hdeliver := @deliver_pair (Shell.platform false) spacedText untitledText spaced
    moduleName_spaced text
  have hemit := (@emit_cons_delivered _ standard {} _ _ _ _ _ htext hdeliver [untitled]).2
  have hfiles : ∀ error, (emit (Shell.platform false) standard {} (Path.ofString "generated")
      { tree := halting } [spaced, untitled]).2.result ≠ .error (.file error) := by
    intro error herror
    have hlast := fun effects => (@emit_cons_error (Shell.platform false) standard {} _ _
      hfault (Path.ofString "generated") effects []).2
    have hsame := (hemit.trans (hlast _)).symm.trans herror
    cases hsame
  obtain ⟨hcode, -, -, hwrites⟩ := (execute_leaves hechoes halting [] {}).halted rfl standard
    (Path.ofString "generated") [spaced] untitled [] [text] _ starts_halting hsources hfault hfiles
  obtain ⟨place, hplace⟩ := hwrites (List.cons_ne_nil _ _)
  have hmodule := hplace.module [] spaced text [] rfl (List.forall_mem_nil _)
  have hgenerated : place = ["generated"] :=
    Except.ok.inj (hplace.located.symm.trans (locate_generated _))
  rw [hgenerated, moduleName_spaced] at hmodule
  obtain ⟨-, _, hshown, hprinted, -⟩ := (execute_leaves hechoes halting [] { print := true }).cutShort
    rfl standard (Path.ofString "generated") [spaced] untitled [] [text] _ starts_halting hsources
    hfault
  obtain ⟨shown, _, hfirst, hnone, rfl⟩ := List.forall₂_cons_left_iff.mp hshown
  cases hnone
  exact ⟨text, shown, htext, hcode, hmodule, hfirst, hprinted⟩

-- The first line of a module names its namespace.
theorem exists_of_render {unit : String} {m : Code.ModuleDecl} {text : String}
    (h : m.render unit = .ok text) : ∃ rest, text = "# " ++ m.name.getD "None" ++ rest := by
  obtain ⟨imports, -, h⟩ := Result.bind_eq_ok.mp h
  obtain ⟨classes, -, h⟩ := Result.bind_eq_ok.mp h
  obtain rfl := Except.ok.inj h
  simp only [String.append_assoc]
  exact ⟨_, rfl⟩

theorem exists_of_source {g : TestClass.Generator} {target text : String} {feature : Feature}
    (h : (source g target feature).result = .ok text) : ∃ rest,
      text = "# " ++ TestClass.orElse (some target) g.settings.defaultNamespace ++ rest := by
  obtain ⟨generated, hgenerated, hrender⟩ := Run.bind_eq_ok.mp h
  rw [Run.mapError_eq_ok] at hgenerated hrender
  obtain ⟨_, -, hgenerated⟩ := Run.bind_eq_ok.mp hgenerated
  obtain ⟨decoration, -, hgenerated⟩ := Run.bind_eq_ok.mp hgenerated
  obtain ⟨given, -, hgenerated⟩ := Run.bind_eq_ok.mp hgenerated
  obtain ⟨portions, -, hgenerated⟩ := Run.bind_eq_ok.mp hgenerated
  obtain ⟨_, -, hgenerated⟩ := Run.bind_eq_ok.mp hgenerated
  obtain rfl := Except.ok.inj hgenerated
  exact exists_of_render hrender

def tint : String := "\x1b[31m"

theorem isSequence_tint : Shell.IsSequence tint.toList := by
  have hdigits : ∀ c ∈ ['3', '1'], c = ';' ∨ c = '?' ∨ c.isDigit :=
    List.forall_mem_cons.mpr ⟨.inr (.inr rfl), List.forall_mem_singleton.mpr (.inr (.inr rfl))⟩
  exact ⟨['3', '1'], 'm', rfl, hdigits, rfl⟩

theorem stripped_source_ne {feature : Feature} {text : String}
    (h : (source standard tint feature).result = .ok text) : Shell.stripped text ≠ text := by
  obtain ⟨rest, rfl⟩ := exists_of_source h
  intro heq
  have hchars := congrArg String.toList heq
  rw [Shell.stripped, String.toList_ofList, String.toList_append, String.toList_append,
    List.append_assoc] at hchars
  exact Shell.strippedFrom_ne (by decide) isSequence_tint _ hchars

-- The options name a namespace that a terminal would obey.
theorem execute_strips_source : ∃ text shown,
    collected halting { print := true, target := tint } = .ok [spaced, untitled] ∧
    (source standard tint spaced).result = .ok text ∧
    (source standard tint untitled).result = .error (.generate .untitled) ∧
    (execute (Shell.platform false) halting [] { print := true, target := tint }).effects.output =
      shown ++ "\n" ∧ shown ≠ text := by
  have hstarts := @starts_halting (Shell.platform false) true tint
  have hfault : (source standard tint untitled).result = .error (.generate .untitled) := by
    decide +kernel
  obtain ⟨text, htext⟩ := @source_eq_ok tint spaced (by decide +kernel)
  refine ⟨text, Shell.stripped text, hstarts.collect, htext, hfault, ?_, stripped_source_ne htext⟩
  have hdeliver := @deliver_print (Shell.platform false) { print := true, target := tint }
    (Path.ofString "generated") { tree := halting } rfl spaced text
  obtain ⟨heffects, -⟩ := @emit_cons_delivered _ standard { print := true, target := tint }
    _ _ _ _ _ htext hdeliver [untitled]
  rw [(execute_of_some hstarts.prepare).1, heffects, (emit_cons_error hfault _ _ _).1]
  exact String.empty_append

end Rehearsal.Command
