namespace Rehearsal

-- A path is absolute if it has a root. Empty components and single dots are left out.
structure Path where
  root : String := ""
  parts : List String := []
  deriving DecidableEq, Repr

namespace Path

def components : List Char → List (List Char)
  | [] => [[]]
  | c :: rest =>
      if c == '/' then [] :: components rest
      else
        match components rest with
        | [] => [[c]]
        | part :: others => (c :: part) :: others

-- Exactly two slashes in front are a root of their own.
def rootOf (text : List Char) : String :=
  match (text.takeWhile (· == '/')).length with
  | 0 => ""
  | 2 => "//"
  | _ => "/"

def ofString (text : String) : Path :=
  { root := rootOf text.toList
    parts := ((components text.toList).map String.ofList).filter fun part =>
      part != "" && part != "." }

def toString (path : Path) : String :=
  if path.root.isEmpty && path.parts.isEmpty then "."
  else path.root ++ "/".intercalate path.parts

-- An absolute path on the right stands for itself.
def join (base next : Path) : Path :=
  if next.root.isEmpty then { base with parts := base.parts ++ next.parts } else next

def child (base : Path) (name : String) : Path := base.join (ofString name)

def parent (path : Path) : Path := { path with parts := path.parts.dropLast }

-- Component by component, by code point.
def comesBefore : List String → List String → Bool
  | [], _ => true
  | _ :: _, [] => false
  | a :: as, b :: bs => a < b || (a == b && comesBefore as bs)

end Path

end Rehearsal
