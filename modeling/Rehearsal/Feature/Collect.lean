import Rehearsal.Feature.Reader
import Rehearsal.Files.Tree
import Rehearsal.Log.Basic
import Rehearsal.TagName

namespace Rehearsal.Feature

-- Why the features below a directory cannot be collected.
inductive CollectFault where
  | parse (error : ParseError)
  | file (error : FileError)
  deriving DecidableEq, Repr

def CollectFault.message : CollectFault → String
  | .parse error => error.message
  | .file error => error.message

def fileEnding : String := ".feature"

def ofFile (tree : FileTree) (path : Path) : Except CollectFault Feature := do
  let text ← (tree.read path).mapError .file
  (parse path.toString text).mapError .parse

-- The tags that are asked for, in order and without repetition.
def wantedTags (tags : List String) : List String :=
  ((tags.map fun tag => String.ofList (TagName.expectedKey tag)).eraseDups).mergeSort
    fun a b => decide (a ≤ b)

def carries (wanted : List String) (tags : List Tag) : Bool :=
  tags.any fun tag => wanted.contains (lowered tag.name)

-- The feature with those scenarios that carry a wanted tag, themselves or through the feature.
def restrict (wanted : List String) (feature : Feature) : Feature :=
  { feature with
    scenarios := feature.scenarios.filter fun scenario =>
      carries wanted feature.tags || carries wanted scenario.tags }

def noMatch (path : Path) (wanted : List String) : String :=
  "No scenario of " ++ path.toString ++ " matches tags [" ++
    ", ".intercalate (wanted.map literal) ++ "]"

-- No wanted tags leave a feature as it is. A feature that loses all its scenarios is dropped.
def select {ε : Type} (wanted : List String) (path : Path) (feature : Feature) :
    Run ε (List Feature) := do
  if wanted.isEmpty then return [feature]
  let restricted := feature.restrict wanted
  if restricted.scenarios.isEmpty then
    Run.debug (noMatch path wanted)
    return []
  else return [restricted]

def collectFiles (tree : FileTree) (wanted : List String) :
    List Path → Run CollectFault (List Feature)
  | [] => pure []
  | path :: rest => do
      let feature ← Run.ofExcept (ofFile tree path)
      let kept ← select wanted path feature
      return kept ++ (← collectFiles tree wanted rest)

-- The features of all files below a directory, in the order of their paths.
def collect (tree : FileTree) (directory : Path) (tags : List String) :
    Run CollectFault (List Feature) := do
  let paths ← Run.ofExcept ((tree.find directory fileEnding).mapError .file)
  let features ← collectFiles tree (wantedTags tags) paths
  Run.info ("Parsed " ++ toString features.length ++ " feature(s) from " ++ directory.toString)
  return features

end Rehearsal.Feature
