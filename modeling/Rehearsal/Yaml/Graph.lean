import Rehearsal.Yaml.Node

namespace Rehearsal.Yaml

-- A part of a list or a map: a scalar, or another list or map by its number.
inductive Item where
  | scalar (text : String) (isPlain : Bool)
  | box (number : Nat)
  deriving DecidableEq, Repr

abbrev Entries := List (Item × Item)

inductive Box where
  | list (items : List Item)
  | map (entries : Entries)
  deriving Repr

-- The lists and maps of a document, and the nodes that have names.
structure Graph where
  boxes : List Box := []
  names : List (String × Item) := []

namespace Graph

-- What a node becomes in a graph, if it is no alias.
def next (graph : Graph) : Node → Item
  | .scalar text isPlain => .scalar text isPlain
  | _ => .box graph.boxes.length

-- A name is given once.
def name? (graph : Graph) (name : String) (item : Item) : Option Graph :=
  if (graph.names.lookup name).isSome then none
  else some { graph with names := (name, item) :: graph.names }

def reserve (graph : Graph) : Graph := { graph with boxes := graph.boxes ++ [.list []] }

def fill (graph : Graph) (number : Nat) (box : Box) : Graph :=
  { graph with boxes := graph.boxes.set number box }

mutual

-- An alias refers to a node that was named before it, which may be one around it.
def add? (graph : Graph) : Node → Option (Item × Graph)
  | .scalar text isPlain => some (.scalar text isPlain, graph)
  | .alias name => (graph.names.lookup name).map fun item => (item, graph)
  | .named name node => do (← graph.name? name (graph.next node)).add? node
  | .list items => do
      let number := graph.boxes.length
      let (items, graph) ← graph.reserve.addItems? items
      return (.box number, graph.fill number (.list items))
  | .map entries => do
      let number := graph.boxes.length
      let (entries, graph) ← graph.reserve.addEntries? entries
      return (.box number, graph.fill number (.map entries))

def addItems? (graph : Graph) : List Node → Option (List Item × Graph)
  | [] => some ([], graph)
  | node :: rest => do
      let (item, graph) ← graph.add? node
      let (items, graph) ← graph.addItems? rest
      return (item :: items, graph)

def addEntries? (graph : Graph) : List (Node × Node) → Option (Entries × Graph)
  | [] => some ([], graph)
  | (key, value) :: rest => do
      let (key, graph) ← graph.add? key
      let (value, graph) ← graph.add? value
      let (entries, graph) ← graph.addEntries? rest
      return ((key, value) :: entries, graph)

end

end Graph

-- A key that brings in the entries of other maps.
def Item.isMergeKey : Item → Bool
  | .scalar text isPlain => isPlain && text == "<<"
  | .box _ => false

-- The entries of a map. What it brings in stands before its own entries, and of several maps the
-- first counts most, so its entries come last.
def entries? (boxes : List Box) : Nat → Nat → Option Entries
  | 0, _ => none
  | fuel + 1, number =>
      let ofItem : Item → Option Entries := fun item =>
        match item with
        | .box number => entries? boxes fuel number
        | .scalar _ _ => none
      let brought : Item → Option Entries := fun item =>
        match item with
        | .scalar _ _ => none
        | .box number =>
            match boxes[number]? with
            | some (.list items) => (items.reverse.mapM ofItem).map List.flatten
            | _ => entries? boxes fuel number
      match boxes[number]? with
      | some (.map entries) => do
          let brought ← (entries.filter (·.1.isMergeKey)).mapM fun entry => brought entry.2
          return brought.flatten ++ entries.filter (!·.1.isMergeKey)
      | _ => none

end Rehearsal.Yaml
