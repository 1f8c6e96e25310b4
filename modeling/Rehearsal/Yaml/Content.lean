import Rehearsal.Settings.Merge
import Rehearsal.Yaml.Graph
import Rehearsal.Yaml.Scalar

namespace Rehearsal.Yaml

open Content

def scalarOf (text : String) (isPlain : Bool) : Except Fault Scalar :=
  if isPlain then plainScalar text else .ok (.text text)

-- A sign that means something as a key only is a text there.
def keyOf : Item → Except Fault Scalar
  | .scalar text isPlain => if text = "=" then .ok (.text text) else scalarOf text isPlain
  | .box _ => .error .invalid

-- What an item is, where the boxes of its document stand from some place on.
def Item.data (next : Nat) : Item → Except Fault Data
  | .scalar text isPlain => (scalarOf text isPlain).map .scalar
  | .box number => .ok (.shared (next + number))

def Item.number? : Item → Option Nat
  | .scalar _ _ => none
  | .box number => some number

-- What a box holds, and the boxes in it. Of two entries with one key the last one counts.
def boxData (next : Nat) (boxes : List Box) (number : Nat) : Except Fault (Data × List Nat) :=
  match boxes[number]? with
  | some (.list items) => do
      return (.list (← items.mapM (Item.data next)), items.filterMap Item.number?)
  | _ =>
      match entries? boxes (boxes.length + 1) number with
      | none => .error .invalid
      | some entries => do
          let fields ← entries.mapM fun (key, value) => do
            return (← keyOf key, ← value.data next)
          return (.map (Fields.putAll [] fields), entries.filterMap fun entry => entry.2.number?)

-- The boxes are opened in the order in which they are met, and the first fault counts.
def opened (next : Nat) (boxes : List Box) :
    Nat → List Nat → List (Nat × Data) → Except Fault (List (Nat × Data))
  | 0, _, known => .ok known
  | _, [], known => .ok known
  | fuel + 1, number :: queue, known =>
      if (known.lookup number).isSome then opened next boxes fuel queue known
      else do
        let (data, inner) ← boxData next boxes number
        opened next boxes fuel (queue ++ inner) (known ++ [(number, data)])

def Box.width : Box → Nat
  | .list items => items.length
  | .map entries => entries.length

def Graph.content (graph : Graph) (root : Item) (next : Nat) : Except Fault (Content next) := do
  let found ← root.data next
  let widths := graph.boxes.foldl (fun sum box => sum + box.width) 0
  let fuel := graph.boxes.length * (widths + 1) + 1
  let known ← opened next graph.boxes fuel root.number?.toList []
  let memory := (List.range graph.boxes.length).map fun number =>
    (known.lookup number).getD (.list [])
  if sound : (found :: memory).all (·.isSound next (next + memory.length)) = true then
    return { memory, root := found, sound }
  else throw .invalid

-- What a text holds.
def read (next : Nat) (text : String) : Except Fault (Content next) :=
  match (tokens? text.toList).bind document? with
  | none => .error .invalid
  | some node =>
      match Graph.add? {} node with
      | none => .error .invalid
      | some (root, graph) => graph.content root next

end Rehearsal.Yaml
