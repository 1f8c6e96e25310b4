import Rehearsal.Yaml.Token

namespace Rehearsal.Yaml

-- A document as a tree. What a scalar means depends on whether it was quoted. An alias stands for
-- the node that has its name.
inductive Node where
  | scalar (text : String) (isPlain : Bool)
  | list (items : List Node)
  | map (entries : List (Node × Node))
  | named (name : String) (node : Node)
  | alias (name : String)
  deriving Repr

-- A node that is left out.
def Node.missing : Node := .scalar "" true

-- Readers give what stands at the front of some tokens, and the tokens after it.
def onFirst {α β γ : Type} (f : α → β) (found : α × γ) : β × γ := (f found.1, found.2)

-- A node is left out if one of some tokens comes in its place.
def orMissing (ends : List Token) (read : List Token → Option (Node × List Token))
    (tokens : List Token) : Option (Node × List Token) :=
  if tokens.head?.any ends.contains then some (.missing, tokens) else read tokens

-- Items between brackets are divided by commas. One comma may follow the last item.
def nextItem? (first : Bool) (tokens : List Token) : Option (List Token) :=
  if first then some tokens
  else
    match tokens with
    | .comma :: rest => some rest
    | _ => none

-- What can follow the name of a node. Otherwise the node is left out.
def startsContent (block flush : Bool) : Token → Bool
  | .scalar _ _ => true
  | .listOpen => true
  | .mapOpen => true
  | .blockList => block
  | .blockMap => block
  | .entry => flush
  | _ => false

mutual

-- Blocks stand only inside blocks. The items of a list that is the value of a key may stand
-- right below the key.
def node (block flush : Bool) : Nat → List Token → Option (Node × List Token)
  | 0, _ => none
  | _, [] => none
  | fuel + 1, token :: rest =>
      match token with
      | .alias name => some (.alias name, rest)
      | .anchor name =>
          if rest.head?.any (startsContent block flush) then
            (node block flush fuel rest).map (onFirst (.named name))
          else some (.named name .missing, rest)
      | .scalar text isPlain => some (.scalar text isPlain, rest)
      | .listOpen => (flowItems true fuel rest).map (onFirst .list)
      | .mapOpen => (flowEntries true fuel rest).map (onFirst .map)
      | .blockList => if block then (blockItems fuel rest).map (onFirst .list) else none
      | .blockMap => if block then (blockEntries fuel rest).map (onFirst .map) else none
      | .entry => if flush then (flushItems fuel (token :: rest)).map (onFirst .list) else none
      | _ => none

def blockItems : Nat → List Token → Option (List Node × List Token)
  | 0, _ => none
  | fuel + 1, tokens =>
      match tokens with
      | .entry :: rest => do
          let (item, rest) ← orMissing [.entry, .blockEnd] (node true false fuel) rest
          (blockItems fuel rest).map (onFirst (item :: ·))
      | .blockEnd :: rest => some ([], rest)
      | _ => none

def flushItems : Nat → List Token → Option (List Node × List Token)
  | 0, _ => none
  | fuel + 1, tokens =>
      match tokens with
      | .entry :: rest => do
          let (item, rest) ←
            orMissing [.entry, .key, .value, .blockEnd] (node true false fuel) rest
          (flushItems fuel rest).map (onFirst (item :: ·))
      | _ => some ([], tokens)

def blockEntries : Nat → List Token → Option (List (Node × Node) × List Token)
  | 0, _ => none
  | fuel + 1, tokens =>
      match tokens with
      | .key :: rest => do
          let (entry, rest) ← pair true [.key, .blockEnd] fuel rest
          (blockEntries fuel rest).map (onFirst (entry :: ·))
      | .blockEnd :: rest => some ([], rest)
      | _ => none

-- A key and its value, either of which may be left out.
def pair (block : Bool) (ends : List Token) :
    Nat → List Token → Option ((Node × Node) × List Token)
  | 0, _ => none
  | fuel + 1, tokens => do
      let (key, rest) ← orMissing (.value :: ends) (node block block fuel) tokens
      match rest with
      | .value :: rest =>
          (orMissing (if block then .value :: ends else ends) (node block block fuel) rest).map
            (onFirst (key, ·))
      | _ => some ((key, .missing), rest)

-- A key with its value between the items of a list is a map of its own.
def flowItems (first : Bool) : Nat → List Token → Option (List Node × List Token)
  | 0, _ => none
  | fuel + 1, tokens =>
      match tokens with
      | .listClose :: rest => some ([], rest)
      | _ => do
          match ← nextItem? first tokens with
          | .listClose :: rest => some ([], rest)
          | .key :: rest =>
              let (entry, rest) ← pair false [.comma, .listClose] fuel rest
              (flowItems false fuel rest).map (onFirst (.map [entry] :: ·))
          | tokens =>
              let (item, rest) ← node false false fuel tokens
              (flowItems false fuel rest).map (onFirst (item :: ·))

-- A key without a value needs no colon.
def flowEntries (first : Bool) : Nat → List Token → Option (List (Node × Node) × List Token)
  | 0, _ => none
  | fuel + 1, tokens =>
      match tokens with
      | .mapClose :: rest => some ([], rest)
      | _ => do
          match ← nextItem? first tokens with
          | .mapClose :: rest => some ([], rest)
          | .key :: rest =>
              let (entry, rest) ← pair false [.comma, .mapClose] fuel rest
              (flowEntries false fuel rest).map (onFirst (entry :: ·))
          | tokens =>
              let (key, rest) ← node false false fuel tokens
              (flowEntries false fuel rest).map (onFirst ((key, .missing) :: ·))

end

def endsDocument (token : Token) : Bool := token == .documentStart || token == .documentEnd

-- The one document of a text. An empty text has none.
def document? (tokens : List Token) : Option Node :=
  let read := fun (tokens : List Token) => do
    let (found, rest) ← node true false (3 * tokens.length + 3) tokens
    if rest.all (· == .documentEnd) then some found else none
  match tokens with
  | [] => some .missing
  | .documentStart :: rest =>
      if rest.head?.all endsDocument then
        if rest.all (· == .documentEnd) then some .missing else none
      else read rest
  | tokens => read tokens

end Rehearsal.Yaml
