import Rehearsal.Files.Path
import Rehearsal.Text.Lines
import Rehearsal.Text.Quoted

namespace Rehearsal

inductive Node where
  | directory
  | file (content : ByteArray)

-- Files and directories by their place. Places are seen from the working directory: those above
-- it start with dots, and those below the root of the file system with a slash.
structure FileTree where
  entries : List (List String × Node) := []

-- What keeps a file from being read or written.
inductive FileTree.Fault where
  | missing
  | occupied
  | notDirectory
  | isDirectory
  | nameTooLong
  | nullInName
  | notText
  deriving DecidableEq, Repr

def FileTree.Fault.text : FileTree.Fault → String
  | .missing => "[Errno 2] No such file or directory"
  | .occupied => "[Errno 17] File exists"
  | .notDirectory => "[Errno 20] Not a directory"
  | .isDirectory => "[Errno 21] Is a directory"
  | .nameTooLong => "[Errno 36] File name too long"
  | .nullInName => "A name holds a null character"
  | .notText => "The file is not a text"

structure FileError where
  fault : FileTree.Fault
  path : Path
  deriving DecidableEq, Repr

def FileError.message (error : FileError) : String :=
  error.fault.text ++ ": " ++ literal error.path.toString

namespace FileTree

-- The working directory, those above it and the root are always there.
def isGiven (place : List String) : Bool :=
  place.all (· == "..") || place == ["/"] || place == ["//"]

def node? (tree : FileTree) (place : List String) : Option Node :=
  if isGiven place then some .directory else tree.entries.lookup place

def isDirectoryAt (tree : FileTree) (place : List String) : Bool :=
  match tree.node? place with
  | some .directory => true
  | _ => false

def replaceEntry (place : List String) (node : Node) :
    List (List String × Node) → List (List String × Node)
  | [] => [(place, node)]
  | (first, old) :: rest =>
      if first = place then (first, node) :: rest
      else (first, old) :: replaceEntry place node rest

def put (tree : FileTree) (place : List String) (node : Node) : FileTree :=
  ⟨replaceEntry place node tree.entries⟩

def up (place : List String) : List String :=
  if place.all (· == "..") then place ++ [".."]
  else if place.length = 1 && isGiven place then place
  else place.dropLast

def nameLimit : Nat := 255

def pathLimit : Nat := 4095

-- Follows the parts from a place. All but the last must lead to directories.
def follow (tree : FileTree) : List String → List String → Except Fault (List String)
  | place, [] => .ok place
  | place, part :: rest =>
      match tree.node? place with
      | none => .error .missing
      | some (.file _) => .error .notDirectory
      | some .directory =>
          if part == ".." then tree.follow (up place) rest
          else if part.utf8ByteSize > nameLimit then .error .nameTooLong
          else tree.follow (place ++ [part]) rest

-- The place that a path leads to, whether or not there is something.
def locate (tree : FileTree) (path : Path) : Except Fault (List String) :=
  if path.toString.contains '\x00' then .error .nullInName
  else if path.toString.utf8ByteSize > pathLimit then .error .nameTooLong
  else tree.follow (if path.root.isEmpty then [] else [path.root]) path.parts

-- Whether there is something at a path. A name that is too long is an error here too.
def isThere (tree : FileTree) (path : Path) : Except FileError Bool :=
  match tree.locate path with
  | .ok place => .ok (tree.node? place).isSome
  | .error .nameTooLong => .error ⟨.nameTooLong, path⟩
  | .error _ => .ok false

def isDirectory (tree : FileTree) (path : Path) : Bool :=
  match tree.locate path with
  | .ok place => tree.isDirectoryAt place
  | .error _ => false

def contentAt (tree : FileTree) (place : List String) : Except Fault String :=
  match tree.node? place with
  | none => .error .missing
  | some .directory => .error .isDirectory
  | some (.file content) =>
      match String.fromUTF8? content with
      | some text => .ok (String.ofList (Text.feeds text.toList))
      | none => .error .notText

-- The text of a file, with a line feed at the end of each line.
def read (tree : FileTree) (path : Path) : Except FileError String :=
  (do tree.contentAt (← tree.locate path)).mapError (⟨·, path⟩)

def makeOne (tree : FileTree) (path : Path) : Except Fault FileTree := do
  let place ← tree.locate path
  match tree.node? place with
  | some _ => .error .occupied
  | none => .ok (tree.put place .directory)

-- A directory that is there already will do.
def makeOrKeep (tree : FileTree) (path : Path) : Except Fault FileTree :=
  match tree.makeOne path with
  | .ok made => .ok made
  | .error fault => if tree.isDirectory path then .ok tree else .error fault

-- The parts are given from the last to the first.
def makeAll (tree : FileTree) (root : String) : List String → Except FileError FileTree
  | [] => (tree.makeOrKeep ⟨root, []⟩).mapError (⟨·, ⟨root, []⟩⟩)
  | part :: above =>
      let path : Path := ⟨root, (part :: above).reverse⟩
      match tree.makeOrKeep path with
      | .error .missing => do
          let tree ← makeAll tree root above
          (tree.makeOrKeep path).mapError (⟨·, path⟩)
      | made => made.mapError (⟨·, path⟩)

-- Makes a directory, and those above it that are missing.
def makeDirectory (tree : FileTree) (path : Path) : Except FileError FileTree :=
  tree.makeAll path.root path.parts.reverse

def writeAt (tree : FileTree) (place : List String) (text : String) : Except Fault FileTree :=
  if tree.isDirectoryAt place then .error .isDirectory
  else if tree.isDirectoryAt (up place) then .ok (tree.put place (.file text.toUTF8))
  else .error .missing

def write (tree : FileTree) (path : Path) (text : String) : Except FileError FileTree :=
  (do tree.writeAt (← tree.locate path) text).mapError (⟨·, path⟩)

-- Adds something to a tree together with the directories above it.
def plant (tree : FileTree) (path : Path) (node : Node) : FileTree :=
  let above := (List.range path.parts.length).map path.parts.take
  let grown := above.foldl
    (fun tree place => if (tree.node? place).isSome then tree else tree.put place .directory) tree
  grown.put path.parts node

-- What a suffix of the place adds to a place above it.
def below? : List String → List String → Option (List String)
  | [], rest => some rest
  | _ :: _, [] => none
  | a :: as, b :: bs => if a == b then below? as bs else none

-- The paths below a place whose names have an ending, in order. They start with the path of the
-- place.
def findBelow (tree : FileTree) (place : List String) (directory : Path) (ending : String) :
    List Path :=
  let found := (tree.entries.filterMap fun entry => below? place entry.1).filter fun parts =>
    match parts.getLast? with
    | some name => name.endsWith ending
    | none => false
  (found.mergeSort Path.comesBefore).map fun parts =>
    { directory with parts := directory.parts ++ parts }

-- The paths below a directory whose names have an ending. There are none where there is no
-- directory, but a name that is too long is an error.
def find (tree : FileTree) (directory : Path) (ending : String) :
    Except FileError (List Path) :=
  match tree.locate directory with
  | .ok place =>
      .ok (if tree.isDirectoryAt place then tree.findBelow place directory ending else [])
  | .error .nameTooLong => .error ⟨.nameTooLong, directory⟩
  | .error _ => .ok []

-- The files at or below the working directory.
def files (tree : FileTree) : List (List String × ByteArray) :=
  tree.entries.filterMap fun (place, node) =>
    match node with
    | .directory => none
    | .file content =>
        if place.head? = some ".." || place.head? = some "/" || place.head? = some "//" then none
        else some (place, content)

end FileTree

end Rehearsal
