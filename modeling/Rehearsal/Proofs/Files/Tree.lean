import Rehearsal.Files.Tree
import Rehearsal.Proofs.Assoc
import Rehearsal.Proofs.Log.Result

namespace Rehearsal

namespace Path

theorem components_of_no_slash {text : List Char} (h : '/' ∉ text) : components text = [text] := by
  induction text with
  | nil => rfl
  | cons c rest ih =>
      rw [List.mem_cons, not_or] at h
      have hc : ¬ (c == '/') := by simpa using fun heq : c = '/' => h.1 heq.symm
      rw [components, if_neg hc, ih h.2]

theorem rootOf_of_no_slash {text : List Char} (h : '/' ∉ text) : rootOf text = "" := by
  have hnone : text.takeWhile (· == '/') = [] := by
    cases text with
    | nil => rfl
    | cons c rest =>
        have hc : (c == '/') = false := by
          rw [beq_eq_false_iff_ne]
          rintro rfl
          exact h List.mem_cons_self
        rw [List.takeWhile_cons, hc]
        rfl
  rw [rootOf, hnone]
  rfl

theorem ofString_of_no_slash {name : String} (hslash : '/' ∉ name.toList) (hempty : name ≠ "")
    (hdot : name ≠ ".") : ofString name = ⟨"", [name]⟩ := by
  rw [ofString, rootOf_of_no_slash hslash, components_of_no_slash hslash]
  simp [hempty, hdot]

end Path

namespace FileTree

variable {tree made after : FileTree}

theorem entries_put (tree : FileTree) (place : List String) (node : Node) :
    (tree.put place node).entries = Assoc.put place node tree.entries := by
  unfold put
  induction tree.entries with
  | nil => rfl
  | cons entry rest ih =>
      dsimp only at ih ⊢
      rw [replaceEntry, ih, Assoc.put]

theorem node?_put {place : List String} (hplace : isGiven place = false) (tree : FileTree)
    (node : Node) (other : List String) :
    (tree.put place node).node? other = if other = place then some node else tree.node? other := by
  unfold node?
  by_cases hgiven : isGiven other
  · have hne : other ≠ place := by
      rintro rfl
      rw [hplace] at hgiven
      cases hgiven
    rw [if_pos hgiven, if_neg hne, if_pos hgiven]
  · rw [if_neg hgiven, if_neg hgiven, entries_put, Assoc.lookup_put]

theorem isDirectoryAt_iff {place : List String} :
    tree.isDirectoryAt place ↔ tree.node? place = some .directory := by
  unfold isDirectoryAt
  cases tree.node? place with
  | none => simp
  | some node => cases node <;> simp

theorem isGiven_of_not_directory {place : List String} (h : ¬ tree.isDirectoryAt place) :
    isGiven place = false := by
  by_contra hgiven
  rw [Bool.not_eq_false] at hgiven
  apply h
  rw [isDirectoryAt_iff, node?, if_pos hgiven]

-- Every directory is still there.
def KeepsDirectories (tree after : FileTree) : Prop :=
  ∀ place, tree.isDirectoryAt place → after.isDirectoryAt place

theorem KeepsDirectories.refl (tree : FileTree) : KeepsDirectories tree tree := fun _ h => h

theorem KeepsDirectories.trans (hmade : KeepsDirectories tree made)
    (hafter : KeepsDirectories made after) : KeepsDirectories tree after :=
  fun place h => hafter place (hmade place h)

theorem keepsDirectories_put {place : List String} (h : ¬ tree.isDirectoryAt place) (node : Node) :
    KeepsDirectories tree (tree.put place node) := by
  intro other hother
  have hne : other ≠ place := by
    rintro rfl
    exact h hother
  rw [isDirectoryAt_iff, node?_put (isGiven_of_not_directory h), if_neg hne]
  exact isDirectoryAt_iff.mp hother

-- One step of a way.
def advance (tree : FileTree) (place : List String) (part : String) :
    Except Fault (List String) :=
  match tree.node? place with
  | none => .error .missing
  | some (.file _) => .error .notDirectory
  | some .directory =>
      if part == ".." then .ok (up place)
      else if part.utf8ByteSize > nameLimit then .error .nameTooLong
      else .ok (place ++ [part])

theorem advance_eq_ok {place next : List String} {part : String} :
    tree.advance place part = .ok next ↔ tree.isDirectoryAt place ∧
      (part = ".." ∧ up place = next ∨
        part ≠ ".." ∧ part.utf8ByteSize ≤ nameLimit ∧ place ++ [part] = next) := by
  rw [isDirectoryAt_iff, advance]
  cases tree.node? place with
  | none => simp
  | some node =>
      cases node with
      | file content => simp
      | directory =>
          by_cases hup : part = ".."
          · simp [hup]
          · by_cases hlong : part.utf8ByteSize ≤ nameLimit
            · simp [hup, hlong, Nat.not_lt.mpr hlong]
            · simp [hup, hlong, Nat.not_le.mp hlong]

theorem follow_cons (tree : FileTree) (place : List String) (part : String) (rest : List String) :
    tree.follow place (part :: rest) = tree.advance place part >>= (tree.follow · rest) := by
  rw [follow, advance]
  cases tree.node? place with
  | none => rfl
  | some node =>
      cases node with
      | file content => rfl
      | directory =>
          by_cases hup : part == ".."
          · simp only [hup, if_true]
            rfl
          · by_cases hlong : part.utf8ByteSize > nameLimit
            · simp only [hup, hlong, if_true]
              rfl
            · simp only [hup, hlong, if_false]
              rfl

theorem follow_append (tree : FileTree) (place front back : List String) :
    tree.follow place (front ++ back) = tree.follow place front >>= (tree.follow · back) := by
  induction front generalizing place with
  | nil => rfl
  | cons part rest ih => simp only [List.cons_append, follow_cons, ih, bind_assoc]

-- A way that leads somewhere leads there as long as the directories stay.
theorem follow_mono (hkeeps : KeepsDirectories tree after) {place found parts : List String}
    (h : tree.follow place parts = .ok found) : after.follow place parts = .ok found := by
  induction parts generalizing place with
  | nil => exact h
  | cons part rest ih =>
      rw [follow_cons, Result.bind_eq_ok] at h ⊢
      obtain ⟨next, hnext, hrest⟩ := h
      obtain ⟨hplace, hstep⟩ := advance_eq_ok.mp hnext
      exact ⟨next, advance_eq_ok.mpr ⟨hkeeps place hplace, hstep⟩, ih hrest⟩

-- Where a path starts.
def origin (path : Path) : List String := if path.root.isEmpty then [] else [path.root]

theorem locate_eq_ok {path : Path} {place : List String} :
    tree.locate path = .ok place ↔
      '\x00' ∉ path.toString.toList ∧ path.toString.utf8ByteSize ≤ pathLimit ∧
        tree.follow (origin path) path.parts = .ok place := by
  unfold locate
  rw [String.contains_char_eq]
  by_cases hnull : '\x00' ∈ path.toString.toList
  · simp [hnull]
  · by_cases hlong : path.toString.utf8ByteSize > pathLimit
    · have hnot : ¬ path.toString.utf8ByteSize ≤ pathLimit := Nat.not_le.mpr hlong
      simp [hnull, hlong, hnot]
    · have hshort : path.toString.utf8ByteSize ≤ pathLimit := Nat.not_lt.mp hlong
      simp [hnull, hlong, hshort, origin]

theorem locate_mono (hkeeps : KeepsDirectories tree after) {path : Path} {place : List String}
    (h : tree.locate path = .ok place) : after.locate path = .ok place := by
  obtain ⟨hnull, hlong, hfollow⟩ := locate_eq_ok.mp h
  exact locate_eq_ok.mpr ⟨hnull, hlong, follow_mono hkeeps hfollow⟩

theorem isDirectory_iff {path : Path} :
    tree.isDirectory path ↔ ∃ place, tree.locate path = .ok place ∧ tree.isDirectoryAt place := by
  unfold isDirectory
  cases tree.locate path with
  | error fault => simp
  | ok place => simp

theorem below?_eq_some {place other rest : List String} :
    below? place other = some rest ↔ other = place ++ rest := by
  induction place generalizing other with
  | nil => rw [below?, Option.some.injEq, List.nil_append]
  | cons first others ih =>
      cases other with
      | nil => simp [below?]
      | cons part parts =>
          rw [below?, List.cons_append, List.cons.injEq]
          by_cases hpart : first = part
          · simp [hpart, ih]
          · have hpart' : part ≠ first := fun heq => hpart heq.symm
            simp [hpart, hpart']

def fileBelow? (place : List String) : List String × Node → Option (List String × ByteArray)
  | (_, .directory) => none
  | (other, .file content) =>
      match below? place other with
      | some (name :: rest) => some (name :: rest, content)
      | _ => none

theorem fileBelow?_eq_some {place other rest : List String} {node : Node} {content : ByteArray} :
    fileBelow? place (other, node) = some (rest, content) ↔
      rest ≠ [] ∧ other = place ++ rest ∧ node = .file content := by
  cases node with
  | directory => simp [fileBelow?]
  | file old =>
      rw [← below?_eq_some, fileBelow?]
      cases hbelow : below? place other with
      | none => simp
      | some parts =>
          cases parts with
          | nil =>
              simp only [reduceCtorEq, Option.some.injEq, false_iff]
              rintro ⟨hne, heq, -⟩
              exact hne heq.symm
          | cons name parts =>
              simp only [Option.some.injEq, Prod.mk.injEq, Node.file.injEq]
              constructor
              · rintro ⟨rfl, rfl⟩
                exact ⟨List.cons_ne_nil _ _, rfl, rfl⟩
              · rintro ⟨-, hparts, hcontent⟩
                exact ⟨hparts, hcontent⟩

-- The files strictly below a place, by what they add to it.
def filesBelow (tree : FileTree) (place : List String) : List (List String × ByteArray) :=
  tree.entries.filterMap (fileBelow? place)

theorem filesBelow_put_directory {place : List String} (h : tree.node? place = none)
    (other : List String) : (tree.put place .directory).filesBelow other = tree.filesBelow other := by
  have hgiven : isGiven place = false := by
    by_contra hgiven
    rw [node?, if_pos (Bool.not_eq_false _ ▸ hgiven)] at h
    cases h
  have hnew : place ∉ Assoc.keys tree.entries := by
    rw [node?, hgiven] at h
    exact Assoc.lookup_eq_none_iff.mp h
  unfold filesBelow
  rw [entries_put, Assoc.put_of_not_mem hnew, List.filterMap_append]
  simp [fileBelow?]

-- Places on the way of a path.
def IsOnWay (tree : FileTree) (path : Path) (place : List String) : Prop :=
  ∃ parts, parts <+: path.parts ∧ tree.locate ⟨path.root, parts⟩ = .ok place

-- A tree with a directory at a path. Nothing else is new but directories on the way there.
structure Opens (tree : FileTree) (path : Path) (made : FileTree) : Prop where
  isDirectory : made.isDirectory path
  node? : ∀ place, made.node? place = tree.node? place ∨
    tree.node? place = none ∧ made.node? place = some .directory ∧ made.IsOnWay path place
  files : ∀ place, made.filesBelow place = tree.filesBelow place

theorem Opens.keepsDirectories {path : Path} (h : Opens tree path made) :
    KeepsDirectories tree made := by
  intro place hplace
  rw [isDirectoryAt_iff] at hplace ⊢
  rcases h.node? place with hsame | ⟨hnone, -, -⟩
  · rw [hsame, hplace]
  · rw [hnone] at hplace
    cases hplace

theorem Opens.trans {path upper : Path} {opened : FileTree} (hupper : Opens tree upper opened)
    (h : Opens opened path made) (hroot : upper.root = path.root)
    (hparts : upper.parts <+: path.parts) : Opens tree path made where
  isDirectory := h.isDirectory
  node? := by
    intro place
    rcases h.node? place with hsame | ⟨hnone, hmade⟩
    · rw [hsame]
      apply (hupper.node? place).imp_right
      rintro ⟨hnone, hopened, parts, hprefix, hlocate⟩
      rw [hroot] at hlocate
      exact ⟨hnone, hopened, parts, hprefix.trans hparts, locate_mono h.keepsDirectories hlocate⟩
    · rcases hupper.node? place with hsame | ⟨-, hopened, -⟩
      · rw [hsame] at hnone
        exact .inr ⟨hnone, hmade⟩
      · rw [hopened] at hnone
        cases hnone
  files place := (h.files place).trans (hupper.files place)

theorem opens_self {path : Path} (h : tree.isDirectory path) : Opens tree path tree where
  isDirectory := h
  node? _ := .inl rfl
  files _ := rfl

theorem opens_put {path : Path} {place : List String} (hlocate : tree.locate path = .ok place)
    (hnone : tree.node? place = none) : Opens tree path (tree.put place .directory) := by
  have hnot : ¬ tree.isDirectoryAt place := by
    simp [isDirectoryAt_iff, hnone]
  have hthere := locate_mono (keepsDirectories_put hnot .directory) hlocate
  have hnode := node?_put (isGiven_of_not_directory hnot) tree .directory
  refine ⟨?_, fun other => ?_, filesBelow_put_directory hnone⟩
  · rw [isDirectory_iff]
    refine ⟨place, hthere, ?_⟩
    rw [isDirectoryAt_iff, hnode, if_pos rfl]
  · by_cases hother : other = place
    · rw [hnode, if_pos hother, hother]
      exact .inr ⟨hnone, rfl, path.parts, List.prefix_refl _, hthere⟩
    · rw [hnode, if_neg hother]
      exact .inl rfl

theorem opens_of_makeOrKeep {path : Path} (h : tree.makeOrKeep path = .ok made) :
    Opens tree path made := by
  unfold makeOrKeep makeOne at h
  by_cases hdirectory : tree.isDirectory path
  · obtain ⟨place, hlocate, hplace⟩ := isDirectory_iff.mp hdirectory
    rw [hlocate] at h
    simp only [bind, Except.bind, isDirectoryAt_iff.mp hplace, hdirectory] at h
    cases h
    exact opens_self hdirectory
  · cases hlocate : tree.locate path with
    | error fault => simp [hlocate, bind, Except.bind, hdirectory] at h
    | ok place =>
        cases hnode : tree.node? place with
        | some node => simp [hlocate, hnode, bind, Except.bind, hdirectory] at h
        | none =>
            simp only [hlocate, hnode, bind, Except.bind] at h
            cases h
            exact opens_put hlocate hnode

-- Over the parts from the last to the first, as they are tried.
theorem opens_of_makeAll {root : String} {parts : List String}
    (h : tree.makeAll root parts = .ok made) : Opens tree ⟨root, parts.reverse⟩ made := by
  induction parts generalizing made with
  | nil => exact opens_of_makeOrKeep (Result.mapError_eq_ok.mp h)
  | cons part above ih =>
      rw [makeAll] at h
      split at h
      · obtain ⟨opened, hopened, hlast⟩ := Result.bind_eq_ok.mp h
        have hprefix : above.reverse <+: (part :: above).reverse := by
          rw [List.reverse_cons]
          exact List.prefix_append _ _
        exact (ih hopened).trans (opens_of_makeOrKeep (Result.mapError_eq_ok.mp hlast)) rfl hprefix
      · exact opens_of_makeOrKeep (Result.mapError_eq_ok.mp h)

theorem opens_of_makeDirectory {path : Path} (h : tree.makeDirectory path = .ok made) :
    Opens tree path made := by
  have hopens := opens_of_makeAll h
  rwa [List.reverse_reverse] at hopens

theorem makeOrKeep_of_isDirectory {path : Path} (h : tree.isDirectory path) :
    tree.makeOrKeep path = .ok tree := by
  obtain ⟨place, hlocate, hplace⟩ := isDirectory_iff.mp h
  have hone : tree.makeOne path = .error .occupied := by
    rw [makeOne, hlocate]
    simp [bind, Except.bind, isDirectoryAt_iff.mp hplace]
  rw [makeOrKeep, hone]
  exact if_pos h

theorem makeDirectory_of_makeOrKeep {path : Path} (h : tree.makeOrKeep path = .ok made) :
    tree.makeDirectory path = .ok made := by
  obtain ⟨root, parts⟩ := path
  cases hreverse : parts.reverse with
  | nil =>
      rw [List.reverse_eq_nil_iff.mp hreverse] at h
      rw [makeDirectory, hreverse, makeAll, h]
      rfl
  | cons part above =>
      rw [← List.reverse_reverse parts, hreverse] at h
      rw [makeDirectory, hreverse, makeAll, h]
      rfl

theorem makeDirectory_of_isDirectory {path : Path} (h : tree.isDirectory path) :
    tree.makeDirectory path = .ok tree :=
  makeDirectory_of_makeOrKeep (makeOrKeep_of_isDirectory h)

theorem makeDirectory_of_none {path : Path} {place : List String}
    (hlocate : tree.locate path = .ok place) (hnone : tree.node? place = none) :
    tree.makeDirectory path = .ok (tree.put place .directory) := by
  apply makeDirectory_of_makeOrKeep
  have hone : tree.makeOne path = .ok (tree.put place .directory) := by
    rw [makeOne, hlocate]
    simp [bind, Except.bind, hnone]
  rw [makeOrKeep, hone]

theorem write_eq_ok {path : Path} {text : String} :
    tree.write path text = .ok after ↔
      ∃ place, tree.locate path = .ok place ∧ ¬ tree.isDirectoryAt place ∧
        tree.isDirectoryAt (up place) ∧ after = tree.put place (.file text.toUTF8) := by
  rw [write, Result.mapError_eq_ok, Result.bind_eq_ok]
  refine exists_congr fun place => and_congr_right fun _ => ?_
  unfold writeAt
  by_cases hplace : tree.isDirectoryAt place
  · simp [hplace]
  · by_cases hup : tree.isDirectoryAt (up place)
    · simp [hplace, hup, eq_comm]
    · simp [hplace, hup]

theorem read_of_node? {path : Path} {place : List String} {text : String}
    (hlocate : tree.locate path = .ok place) (hnode : tree.node? place = some (.file text.toUTF8)) :
    tree.read path = .ok (String.ofList (Text.feeds text.toList)) := by
  have htext : String.fromUTF8? text.toUTF8 = some text := by
    rw [String.fromUTF8?, String.toUTF8_eq_toByteArray, dif_pos text.isValidUTF8]
    rfl
  rw [read, Result.mapError_eq_ok, Result.bind_eq_ok]
  refine ⟨place, hlocate, ?_⟩
  rw [contentAt, hnode]
  simp only [htext]

-- Entries that are in order are found in that order.
theorem find_of_pairwise {directory : Path} {place : List String} {ending : String}
    {found : List (List String)} (hlocate : tree.locate directory = .ok place)
    (hdirectory : tree.isDirectoryAt place)
    (hfound : ((tree.entries.filterMap fun entry => below? place entry.1).filter fun parts =>
      parts.getLast?.any fun name => ending.toList.isSuffixOf name.toList) = found)
    (hsorted : found.Pairwise fun parts others => Path.comesBefore parts others) :
    tree.find directory ending =
      .ok (found.map fun parts => { directory with parts := directory.parts ++ parts }) := by
  have hsame : tree.findBelow place directory ending =
      found.map fun parts => { directory with parts := directory.parts ++ parts } := by
    unfold findBelow
    rw [List.filter_congr (q := fun parts => parts.getLast?.any fun name =>
      ending.toList.isSuffixOf name.toList), hfound]
    · exact congrArg _ (List.mergeSort_of_pairwise hsorted)
    · intro parts _
      cases parts.getLast? with
      | none => rfl
      | some name =>
          have hiff := @String.Slice.endsWith_string_iff ending name.toSlice
          rw [String.copy_toSlice] at hiff
          rw [Option.any_some, Bool.eq_iff_iff, List.isSuffixOf_iff_suffix]
          exact hiff
  rw [find, hlocate]
  simp only [hdirectory, if_true, hsame]

-- A name that is a path of its own.
def IsName (name : String) : Prop := Path.ofString name = ⟨"", [name]⟩ ∧ name ≠ ".."

theorem child_of_isName {name : String} (h : IsName name) (directory : Path) :
    directory.child name = { directory with parts := directory.parts ++ [name] } := by
  rw [Path.child, h.1]
  rfl

theorem isGiven_child {name : String} (h : IsName name) (place : List String) :
    isGiven (place ++ [name]) = false := by
  have hslash : ∀ root ∈ ["/", "//"], place ++ [name] ≠ [root] := by
    intro root hroot heq
    have hname : name = root := by
      have hlast := congrArg List.getLast? heq
      simpa using hlast
    subst hname
    simp only [List.mem_cons, List.not_mem_nil, or_false] at hroot
    rcases hroot with rfl | rfl <;> exact absurd h.1 (by decide)
  have hone := hslash "/" (by decide)
  have htwo := hslash "//" (by decide)
  simp [isGiven, hone, htwo, h.2]

theorem locate_child {directory : Path} {place found : List String} {name : String}
    (hname : IsName name) (hlocate : tree.locate directory = .ok place)
    (hchild : tree.locate (directory.child name) = .ok found) : found = place ++ [name] := by
  have hfollow := (locate_eq_ok.mp hlocate).2.2
  have hfound : tree.follow (origin directory) (directory.parts ++ [name]) = .ok found := by
    have hfound := (locate_eq_ok.mp hchild).2.2
    rwa [child_of_isName hname] at hfound
  rw [follow_append, Result.bind_eq_ok] at hfound
  obtain ⟨middle, hmiddle, hlast⟩ := hfound
  obtain rfl : place = middle := Except.ok.inj (hfollow.symm.trans hmiddle)
  rw [follow_cons, Result.bind_eq_ok] at hlast
  obtain ⟨next, hnext, hend⟩ := hlast
  obtain ⟨-, ⟨hup, -⟩ | ⟨-, -, rfl⟩⟩ := advance_eq_ok.mp hnext
  · exact absurd hup hname.2
  · exact (Except.ok.inj hend).symm

-- A file in a directory is all that is new after it is written.
theorem write_child {directory : Path} {place : List String} {name text : String}
    (hname : IsName name) (hlocate : tree.locate directory = .ok place)
    (h : tree.write (directory.child name) text = .ok after) :
    ¬ tree.isDirectoryAt (place ++ [name]) ∧
      after = tree.put (place ++ [name]) (.file text.toUTF8) := by
  obtain ⟨found, hfound, hnot, -, rfl⟩ := write_eq_ok.mp h
  obtain rfl := locate_child hname hlocate hfound
  exact ⟨hnot, rfl⟩

theorem filterMap_put_file {place : List String} {name : String} {content : ByteArray}
    {entries : List (List String × Node)}
    (h : entries.lookup (place ++ [name]) ≠ some .directory) :
    (Assoc.put (place ++ [name]) (.file content) entries).filterMap (fileBelow? place) =
      Assoc.put [name] content (entries.filterMap (fileBelow? place)) := by
  have hnew : ∀ content, fileBelow? place (place ++ [name], .file content) =
      some ([name], content) := fun content =>
    fileBelow?_eq_some.mpr ⟨List.cons_ne_nil _ _, rfl, rfl⟩
  induction entries with
  | nil => rw [Assoc.put, List.filterMap_cons_some (hnew content), List.filterMap_nil, Assoc.put]
  | cons entry rest ih =>
      obtain ⟨other, node⟩ := entry
      by_cases hother : other = place ++ [name]
      · subst hother
        cases node with
        | directory => exact absurd List.lookup_cons_self h
        | file old =>
            rw [Assoc.put, if_pos rfl, List.filterMap_cons_some (hnew content),
              List.filterMap_cons_some (hnew old), Assoc.put, if_pos rfl]
      · rw [Assoc.lookup_cons_of_ne fun heq => hother heq.symm] at h
        rw [Assoc.put, if_neg hother]
        cases hbelow : fileBelow? place (other, node) with
        | none =>
            rw [List.filterMap_cons_none hbelow, List.filterMap_cons_none hbelow, ih h]
        | some found =>
            obtain ⟨parts, old⟩ := found
            have hparts : parts ≠ [name] := by
              rintro rfl
              exact hother (fileBelow?_eq_some.mp hbelow).2.1
            rw [List.filterMap_cons_some hbelow, List.filterMap_cons_some hbelow, Assoc.put,
              if_neg hparts, ih h]

theorem filesBelow_put_file {place : List String} {name : String}
    (h : ¬ tree.isDirectoryAt (place ++ [name])) (content : ByteArray) :
    (tree.put (place ++ [name]) (.file content)).filesBelow place =
      Assoc.put [name] content (tree.filesBelow place) := by
  have hgiven := isGiven_of_not_directory h
  have hlookup : tree.entries.lookup (place ++ [name]) ≠ some .directory := by
    intro hdirectory
    apply h
    rw [isDirectoryAt_iff, node?, hgiven]
    exact hdirectory
  unfold filesBelow
  rw [entries_put]
  exact filterMap_put_file hlookup

end FileTree

end Rehearsal
