import Mathlib.Data.List.Forall2
import Rehearsal.Command.Run
import Rehearsal.Proofs.Files.Tree
import Rehearsal.Proofs.Log.Result
import Rehearsal.Proofs.Text.Case

namespace Rehearsal

theorem Identifier.no_slash_fileName (text : String) : '/' ∉ (fileName text).toList := by
  rw [fileName, String.toList_ofList]
  intro h
  have hmapped := Text.mem_of_mem_lowerFrom (by decide) (by decide) h
  obtain ⟨c, -, hc⟩ := List.mem_map.mp hmapped
  by_cases hunfit : unfitForFile c
  · rw [if_pos hunfit] at hc
    exact absurd hc (by decide)
  · rw [if_neg hunfit] at hc
    subst hc
    exact hunfit (by decide)

namespace Command

theorem toList_moduleName (feature : Feature) :
    (moduleName feature).toList =
      "test_".toList ++ (Identifier.fileName (Identifier.pascal feature.name)).toList ++
        ".py".toList := by
  rw [moduleName, String.toList_append, String.toList_append]

-- Whatever a feature is called, its module is a file right in the output directory.
theorem isName_moduleName (feature : Feature) : FileTree.IsName (moduleName feature) := by
  have htext := toList_moduleName feature
  have hslash : '/' ∉ (moduleName feature).toList := by
    rw [htext, List.mem_append, List.mem_append]
    rintro ((hfront | hname) | hback)
    · exact absurd hfront (by decide)
    · exact Identifier.no_slash_fileName _ hname
    · exact absurd hback (by decide)
  have hother : ∀ other : String, other.toList.head? ≠ some 't' → moduleName feature ≠ other := by
    rintro other hhead rfl
    exact hhead (by rw [htext]; rfl)
  refine ⟨Path.ofString_of_no_slash hslash ?_ ?_, ?_⟩
  · exact hother _ (by decide)
  · exact hother _ (by decide)
  · exact hother _ (by decide)

variable {platform : Platform} {g : TestClass.Generator} {options : Options} {directory : Path}
  {effects last : Effects}

theorem deliver_print (h : options.print) (feature : Feature) (text : String) :
    (deliver platform options directory effects feature text).result =
      .ok { effects with output := effects.output ++ platform.print text } := by
  unfold deliver
  rw [if_pos h]
  rfl

-- The tree with a module in it, and the directory above it if that was missing.
def withModule (tree : FileTree) (directory : Path) (feature : Feature) (text : String) :
    Except FileError FileTree :=
  (tree.makeDirectory directory).bind (·.write (directory.child (moduleName feature)) text)

theorem deliver_write (h : options.print = false) (feature : Feature) (text : String) :
    (deliver platform options directory effects feature text).result =
      ((withModule effects.tree directory feature text).mapError .file).map
        fun tree => { effects with tree } := by
  unfold deliver withModule
  cases hmade : effects.tree.makeDirectory directory with
  | error error => simp [h, Except.bind, Except.mapError, Except.map]
  | ok made =>
      cases hwrite : made.write (directory.child (moduleName feature)) text <;>
        simp [h, hwrite, Except.bind, Except.mapError, Except.map]

theorem deliver_eq_error {feature : Feature} {text : String} {failure : Failure}
    (h : (deliver platform options directory effects feature text).result = .error failure) :
    ∃ error, failure = .file error := by
  cases hprint : options.print with
  | true =>
      rw [deliver_print hprint] at h
      cases h
  | false =>
      rw [deliver_write hprint] at h
      cases hmodule : withModule effects.tree directory feature text with
      | error error =>
          rw [hmodule] at h
          cases h
          exact ⟨error, rfl⟩
      | ok tree =>
          rw [hmodule] at h
          cases h

-- The sources of some features.
def Renders (g : TestClass.Generator) (target : String) : List Feature → List String → Prop :=
  List.Forall₂ fun feature text => (source g target feature).result = .ok text

-- The effects of delivering sources one after the other.
inductive Delivers (platform : Platform) (options : Options) (directory : Path) :
    Effects → List (Feature × String) → Effects → Prop where
  | nil {effects : Effects} : Delivers platform options directory effects [] effects
  | cons {effects next last : Effects} {feature : Feature} {text : String}
      {others : List (Feature × String)}
      (first : (deliver platform options directory effects feature text).result = .ok next)
      (rest : Delivers platform options directory next others last) :
      Delivers platform options directory effects ((feature, text) :: others) last

theorem emit_cons_error {feature : Feature} {failure : Failure}
    (h : (source g options.target feature).result = .error failure) (directory : Path)
    (effects : Effects) (rest : List Feature) :
    (emit platform g options directory effects (feature :: rest)).1 = effects ∧
      (emit platform g options directory effects (feature :: rest)).2.result = .error failure := by
  rw [emit]
  simp [h, Except.bind]

theorem emit_cons_delivered {feature : Feature} {text : String} {next : Effects}
    (h : (source g options.target feature).result = .ok text)
    (hdeliver : (deliver platform options directory effects feature text).result = .ok next)
    (rest : List Feature) :
    (emit platform g options directory effects (feature :: rest)).1 =
        (emit platform g options directory next rest).1 ∧
      (emit platform g options directory effects (feature :: rest)).2.result =
        (emit platform g options directory next rest).2.result := by
  rw [emit]
  simp [h, hdeliver, Except.bind]

theorem emit_cons_ok {feature : Feature} {text : String}
    (h : (source g options.target feature).result = .ok text) (directory : Path)
    (effects : Effects) (rest : List Feature) :
    (∃ error, (emit platform g options directory effects (feature :: rest)).2.result =
        .error (.file error)) ∨
      ∃ next, (deliver platform options directory effects feature text).result = .ok next ∧
        (emit platform g options directory effects (feature :: rest)).1 =
          (emit platform g options directory next rest).1 ∧
        (emit platform g options directory effects (feature :: rest)).2.result =
          (emit platform g options directory next rest).2.result := by
  cases hdeliver : (deliver platform options directory effects feature text).result with
  | error failure =>
      obtain ⟨error, rfl⟩ := deliver_eq_error hdeliver
      left
      rw [emit]
      simp [h, hdeliver, Except.bind]
  | ok next => exact .inr ⟨next, rfl, emit_cons_delivered h hdeliver rest⟩

-- Up to the first feature without a source every source is delivered.
theorem emit_of_error {done rest : List Feature} {feature : Feature} {texts : List String}
    {failure : Failure} (hdone : Renders g options.target done texts)
    (hfault : (source g options.target feature).result = .error failure)
    (hfiles : ∀ error, (emit platform g options directory effects
      (done ++ feature :: rest)).2.result ≠ .error (.file error)) :
    Delivers platform options directory effects (done.zip texts)
        (emit platform g options directory effects (done ++ feature :: rest)).1 ∧
      (emit platform g options directory effects (done ++ feature :: rest)).2.result =
        .error failure := by
  induction hdone generalizing effects with
  | nil =>
      obtain ⟨heffects, hresult⟩ := emit_cons_error hfault directory effects rest
      rw [List.nil_append, heffects]
      exact ⟨.nil, hresult⟩
  | cons hfirst hothers ih =>
      rw [List.cons_append] at hfiles ⊢
      obtain ⟨error, herror⟩ | ⟨next, hnext, heffects, hresult⟩ :=
        emit_cons_ok hfirst directory effects _
      · exact absurd herror (hfiles error)
      · rw [hresult] at hfiles
        obtain ⟨hdelivers, hfailure⟩ := ih hfiles
        rw [heffects, hresult]
        exact ⟨.cons hnext hdelivers, hfailure⟩

theorem emit_eq_ok {features : List Feature}
    (h : (emit platform g options directory effects features).2.result = .ok ()) :
    ∃ texts, Renders g options.target features texts ∧
      Delivers platform options directory effects (features.zip texts)
        (emit platform g options directory effects features).1 := by
  induction features generalizing effects with
  | nil => exact ⟨[], .nil, .nil⟩
  | cons feature rest ih =>
      cases hsource : (source g options.target feature).result with
      | error failure =>
          rw [(emit_cons_error hsource directory effects rest).2] at h
          cases h
      | ok text =>
          obtain ⟨error, herror⟩ | ⟨next, hnext, heffects, hresult⟩ :=
            emit_cons_ok hsource directory effects rest
          · rw [herror] at h
            cases h
          · rw [hresult] at h
            obtain ⟨texts, htexts, hdelivers⟩ := ih h
            rw [heffects]
            exact ⟨text :: texts, .cons hsource htexts, .cons hnext hdelivers⟩

theorem failure_ne_file {target : String} {feature : Feature} {failure : Failure}
    (h : (source g target feature).result = .error failure) (error : FileError) :
    failure ≠ .file error := by
  rintro rfl
  unfold source at h
  rw [Run.result_bind] at h
  cases hgenerate : (TestClass.generate g feature none (some target)).result with
  | error fault => simp [hgenerate, Except.mapError, Except.bind] at h
  | ok generated =>
      cases hrender : generated.source.render Code.indentUnit <;>
        simp [hgenerate, hrender, Except.mapError, Except.bind] at h

-- Sources that go to the terminal touch no file.
theorem emit_of_print (hprint : options.print) (features : List Feature) :
    (emit platform g options directory effects features).1.tree = effects.tree ∧
      ∀ error, (emit platform g options directory effects features).2.result ≠
        .error (.file error) := by
  induction features generalizing effects with
  | nil => simp [emit]
  | cons feature rest ih =>
      cases hsource : (source g options.target feature).result with
      | error failure =>
          obtain ⟨heffects, hresult⟩ := emit_cons_error hsource directory effects rest
          rw [heffects, hresult]
          exact ⟨rfl, fun error heq => failure_ne_file hsource error (Except.error.inj heq)⟩
      | ok text =>
          have hdeliver := @deliver_print platform options directory effects hprint feature text
          obtain ⟨heffects, hresult⟩ := emit_cons_delivered hsource hdeliver rest
          obtain ⟨htree, hfiles⟩ :=
            @ih { effects with output := effects.output ++ platform.print text }
          rw [heffects, hresult]
          exact ⟨htree, hfiles⟩

theorem Delivers.eq_of_print (hprint : options.print) {modules : List (Feature × String)}
    (h : Delivers platform options directory effects modules last) :
    last = { effects with
      output := effects.output ++ String.join (modules.map fun m => platform.print m.2) } := by
  induction h with
  | nil => simp
  | cons first rest ih =>
      rw [deliver_print hprint, Except.ok.injEq] at first
      subst first
      simp [ih, String.append_assoc]

-- The file of a module, seen from the directory that it lies in.
def fileOf (module : Feature × String) : List String × ByteArray :=
  ([moduleName module.1], module.2.toUTF8)

def putFiles (place : List String) (tree : FileTree) (files : List (List String × ByteArray)) :
    FileTree :=
  files.foldl (fun tree file => tree.put (place ++ file.1) (.file file.2)) tree

theorem deliver_into (hprint : options.print = false) {place : List String} {feature : Feature}
    {text : String} (hlocate : effects.tree.locate directory = .ok place)
    (hdirectory : effects.tree.isDirectoryAt place)
    (h : (deliver platform options directory effects feature text).result = .ok last) :
    ¬ effects.tree.isDirectoryAt (place ++ [moduleName feature]) ∧
      last = { effects with
        tree := effects.tree.put (place ++ [moduleName feature]) (.file text.toUTF8) } := by
  have hthere := FileTree.isDirectory_iff.mpr ⟨place, hlocate, hdirectory⟩
  rw [deliver_write hprint, withModule, FileTree.makeDirectory_of_isDirectory hthere] at h
  change Except.map _ ((effects.tree.write _ text).mapError _) = _ at h
  cases hwrite : effects.tree.write (directory.child (moduleName feature)) text with
  | error error =>
      rw [hwrite] at h
      cases h
  | ok tree =>
      rw [hwrite] at h
      cases h
      obtain ⟨hnot, rfl⟩ := FileTree.write_child (isName_moduleName feature) hlocate hwrite
      exact ⟨hnot, rfl⟩

-- Modules are put side by side into a directory that is there.
theorem Delivers.eq_putFiles (hprint : options.print = false) {place : List String}
    {modules : List (Feature × String)} (h : Delivers platform options directory effects modules last)
    (hlocate : effects.tree.locate directory = .ok place)
    (hdirectory : effects.tree.isDirectoryAt place) :
    last = { effects with tree := putFiles place effects.tree (modules.map fileOf) } ∧
      effects.tree.KeepsDirectories last.tree ∧
      last.tree.filesBelow place =
        Assoc.putAll (effects.tree.filesBelow place) (modules.map fileOf) := by
  induction h with
  | nil => exact ⟨rfl, .refl _, rfl⟩
  | @cons _ _ _ feature text _ first rest ih =>
      obtain ⟨hnot, rfl⟩ := deliver_into hprint hlocate hdirectory first
      have hkeeps := FileTree.keepsDirectories_put hnot (.file text.toUTF8)
      obtain ⟨hlast, hkept, hfiles⟩ :=
        ih (FileTree.locate_mono hkeeps hlocate) (hkeeps place hdirectory)
      refine ⟨hlast, hkeeps.trans hkept, ?_⟩
      rw [hfiles, FileTree.filesBelow_put_file hnot]
      rfl

-- The first module opens the directory for all.
theorem Delivers.opened (hprint : options.print = false) {module : Feature × String}
    {modules : List (Feature × String)}
    (h : Delivers platform options directory effects (module :: modules) last) :
    ∃ made, effects.tree.makeDirectory directory = .ok made ∧
      Delivers platform options directory { effects with tree := made } (module :: modules) last := by
  cases h with
  | @cons _ next _ feature text _ first rest =>
      have hresult := first
      rw [deliver_write hprint, withModule] at hresult
      cases hmade : effects.tree.makeDirectory directory with
      | error error =>
          rw [hmade] at hresult
          cases hresult
      | ok made =>
          refine ⟨made, rfl, .cons ?_ rest⟩
          have hthere := (FileTree.opens_of_makeDirectory hmade).isDirectory
          rw [hmade] at hresult
          rw [deliver_write hprint, withModule, FileTree.makeDirectory_of_isDirectory hthere]
          exact hresult

section Files

variable {place : List String} {tree : FileTree} {modules : List (Feature × String)}

theorem putFiles_append (front back : List (List String × ByteArray)) :
    putFiles place tree (front ++ back) = putFiles place (putFiles place tree front) back :=
  List.foldl_append

theorem node?_putFiles_of_ne {other : List String}
    (h : ∀ m ∈ modules, other ≠ place ++ [moduleName m.1]) :
    (putFiles place tree (modules.map fileOf)).node? other = tree.node? other := by
  induction modules generalizing tree with
  | nil => rfl
  | cons m rest ih =>
      rw [List.forall_mem_cons] at h
      have hgiven := FileTree.isGiven_child (isName_moduleName m.1) place
      have hrest := @ih (tree.put (place ++ [moduleName m.1]) (.file m.2.toUTF8)) h.2
      rw [FileTree.node?_put hgiven, if_neg h.1] at hrest
      exact hrest

-- Of several modules with one name the last one is kept.
theorem node?_putFiles {earlier later : List (Feature × String)} {feature : Feature}
    {text : String} (h : ∀ m ∈ later, moduleName m.1 ≠ moduleName feature) :
    (putFiles place tree ((earlier ++ (feature, text) :: later).map fileOf)).node?
      (place ++ [moduleName feature]) = some (.file text.toUTF8) := by
  have hne : ∀ m ∈ later, place ++ [moduleName feature] ≠ place ++ [moduleName m.1] := by
    intro m hm heq
    have hname : moduleName feature = moduleName m.1 := by simpa using heq
    exact h m hm hname.symm
  have hgiven := FileTree.isGiven_child (isName_moduleName feature) place
  rw [List.map_append, putFiles_append, List.map_cons]
  have hlater := @node?_putFiles_of_ne place ((putFiles place tree (earlier.map fileOf)).put
    (place ++ [moduleName feature]) (.file text.toUTF8)) later _ hne
  rw [FileTree.node?_put hgiven, if_pos rfl] at hlater
  exact hlater

end Files

-- A tree in which modules were written into a directory. Nothing else is new but directories on
-- the way there.
structure Writes (tree : FileTree) (directory : Path) (place : List String)
    (modules : List (Feature × String)) (after : FileTree) : Prop where
  located : after.locate directory = .ok place
  module : ∀ earlier feature text later, modules = earlier ++ (feature, text) :: later →
    (∀ m ∈ later, moduleName m.1 ≠ moduleName feature) →
    after.node? (place ++ [moduleName feature]) = some (.file text.toUTF8)
  other : ∀ other, (∀ m ∈ modules, other ≠ place ++ [moduleName m.1]) →
    after.node? other = tree.node? other ∨
      tree.node? other = none ∧ after.node? other = some .directory ∧
        after.IsOnWay directory other

theorem Delivers.writes (hprint : options.print = false) {modules : List (Feature × String)}
    (hne : modules ≠ []) (h : Delivers platform options directory effects modules last) :
    last.output = effects.output ∧
      ∃ made place, effects.tree.makeDirectory directory = .ok made ∧
        made.locate directory = .ok place ∧
        Writes effects.tree directory place modules last.tree ∧
        last.tree.filesBelow place =
          Assoc.putAll (effects.tree.filesBelow place) (modules.map fileOf) := by
  obtain ⟨m, rest, rfl⟩ := List.exists_cons_of_ne_nil hne
  obtain ⟨made, hmade, hdelivers⟩ := h.opened hprint
  have hopens := FileTree.opens_of_makeDirectory hmade
  obtain ⟨place, hlocate, hdirectory⟩ := FileTree.isDirectory_iff.mp hopens.isDirectory
  obtain ⟨rfl, hkeeps, hfiles⟩ := hdelivers.eq_putFiles hprint hlocate hdirectory
  refine ⟨rfl, made, place, hmade, hlocate, ⟨FileTree.locate_mono hkeeps hlocate, ?_, ?_⟩, ?_⟩
  · intro earlier feature text later hmodules hlater
    rw [hmodules]
    exact node?_putFiles hlater
  · intro other hother
    rw [node?_putFiles_of_ne hother]
    apply (hopens.node? other).imp_right
    rintro ⟨hnone, hnew, parts, hparts, hway⟩
    exact ⟨hnone, hnew, parts, hparts, FileTree.locate_mono hkeeps hway⟩
  · rw [hfiles, hopens.files]

end Command

end Rehearsal
