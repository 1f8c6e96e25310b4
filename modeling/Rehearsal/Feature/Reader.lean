import Rehearsal.Feature.Fault
import Rehearsal.Feature.Fence
import Rehearsal.Feature.Line
import Rehearsal.Feature.Row
import Rehearsal.Text.Lines

namespace Rehearsal

-- Changes the last element of a list.
def updateLast {α : Type} (f : α → α) : List α → List α
  | [] => []
  | [a] => [f a]
  | a :: b :: rest => a :: updateLast f (b :: rest)

@[simp] theorem updateLast_append_singleton {α : Type} (f : α → α) (front : List α) (a : α) :
    updateLast f (front ++ [a]) = front ++ [f a] := by
  induction front with
  | nil => rfl
  | cons b rest ih =>
      cases rest with
      | nil => rfl
      | cons c more => simpa [updateLast] using ih

namespace Feature

-- The element that steps belong to is the last scenario, or the background before there is one.
def currentSteps (feature : Feature) : List Step :=
  match feature.scenarios.getLast? with
  | some scenario => scenario.steps
  | none => (feature.background.map (·.steps)).getD []

def updateSteps (f : List Step → List Step) (feature : Feature) : Feature :=
  if feature.scenarios.isEmpty then
    { feature with background := feature.background.map fun b => { b with steps := f b.steps } }
  else
    { feature with
      scenarios := updateLast (fun s => { s with steps := f s.steps }) feature.scenarios }

def updateExamples (f : List Examples → List Examples) (feature : Feature) : Feature :=
  { feature with
    scenarios := updateLast (fun s => { s with examples := f s.examples }) feature.scenarios }

def currentExamples? (feature : Feature) : Option Examples :=
  feature.scenarios.getLast?.bind (·.examples.getLast?)

def extended (description line : String) : String :=
  if description.isEmpty then line else description ++ "\n" ++ line

def describe (line : String) (feature : Feature) : Feature :=
  { feature with description := feature.description.map (extended · line) }

def describeElement (line : String) (feature : Feature) : Feature :=
  if feature.scenarios.isEmpty then
    { feature with
      background := feature.background.map fun b =>
        { b with description := extended b.description line } }
  else
    { feature with
      scenarios := updateLast
        (fun s => { s with description := extended s.description line }) feature.scenarios }

end Feature

-- What the next lines attach to: nothing yet, the open element, its last step, or the last
-- examples of the last scenario.
inductive Place where
  | outside
  | element
  | step
  | examples
  deriving DecidableEq, Repr

-- A feature document read up to some line.
structure Reading where
  language : String := "en"
  feature : Option Feature := none
  -- Tags that wait for the next heading.
  tags : List Tag := []
  place : Place := .outside
  -- Free text is description here.
  describing : Bool := false
  fence : Option Fence := none
  deriving DecidableEq, Repr

namespace Reading

open Feature (Fault)

-- Tokens count up to the first that opens a comment.
def tagsOf (line : Nat) : List String → Except Fault (List Tag)
  | [] => .ok []
  | token :: rest =>
      match token.toList with
      | '#' :: _ => .ok []
      | '@' :: c :: name => (tagsOf line rest).map (⟨String.ofList (c :: name), line⟩ :: ·)
      | _ => .error (.invalidTag token)

def takeHeading (reading : Reading) (line : Nat) (heading : Heading) (name : String) :
    Except Fault Reading :=
  match heading, reading.feature with
  | .feature, some _ => .error .secondFeature
  | .feature, none =>
      .ok { reading with
        feature := some { name, tags := reading.tags, language := some reading.language }
        tags := [], place := .outside, describing := true }
  | heading, none => .error (.beforeFeature heading.word)
  | .background, some feature =>
      if feature.background.isSome || !feature.scenarios.isEmpty then .error .misplacedBackground
      else
        .ok { reading with
          feature := some { feature with background := some { name, line } }
          tags := [], place := .element, describing := true }
  | .examples, some feature => takeExamples feature
  | .scenarios, some feature => takeExamples feature
  | _, some feature =>
      .ok { reading with
        feature := some { feature with
          scenarios := feature.scenarios ++ [{ name, tags := reading.tags, line }] }
        tags := [], place := .element, describing := true }
where
  takeExamples (feature : Feature) : Except Fault Reading :=
    if feature.scenarios.isEmpty then .error (.strayExamples heading.word)
    else
      .ok { reading with
        feature := some (feature.updateExamples (· ++ [{ name, tags := reading.tags, line }]))
        tags := [], place := .examples, describing := true }

-- A star is a further step, or the given one where it comes first.
def roleOf (steps : List Step) : StepWord → Role
  | .role played => played
  | .star => if steps.isEmpty then .given else .also

def takeStep (reading : Reading) (line : Nat) (word : StepWord) (text : String) :
    Except Fault Reading :=
  match reading.feature with
  | none => .error .strayStep
  | some feature =>
      if reading.place = .element || reading.place = .step then
        let step : Step :=
          { keyword := some (word.word ++ " "), role := roleOf feature.currentSteps word,
            text := some text, line }
        .ok { reading with
          feature := some (feature.updateSteps (· ++ [step])), place := .step, describing := false }
      else .error .strayStep

def addToExamples (cells : List String) (examples : Examples) : Except Fault Examples :=
  match examples.header with
  | none => .ok { examples with header := some (cells.map some) }
  | some header =>
      if cells.length = header.length then
        .ok { examples with rows := examples.rows ++ [cells.map some] }
      else .error .unevenExamples

def addToStep (cells : List String) (step : Step) : Except Fault Step :=
  match step.argument with
  | none => .ok { step with argument := some (.table ⟨[cells.map some]⟩) }
  | some (.table table) =>
      if table.rows.head?.any (·.length = cells.length) then
        .ok { step with argument := some (.table ⟨table.rows ++ [cells.map some]⟩) }
      else .error .unevenTable
  | some _ => .error .tableAfterDocString

def takeRow (reading : Reading) (text : List Char) : Except Fault Reading :=
  match Row.cells? text, reading.feature with
  | none, _ => .error .openRow
  | some _, none => .error .strayTable
  | some cells, some feature =>
      match reading.place, feature.currentExamples?, feature.currentSteps.getLast? with
      | .examples, some examples, _ =>
          (addToExamples cells examples).map fun examples =>
            { reading with
              feature := some (feature.updateExamples (updateLast fun _ => examples))
              describing := false }
      | .step, _, some step =>
          (addToStep cells step).map fun step =>
            { reading with
              feature := some (feature.updateSteps (updateLast fun _ => step))
              describing := false }
      | _, _, _ => .error .strayTable

-- The step that arguments attach to.
def openStep? (reading : Reading) : Option Step :=
  if reading.place = .step then reading.feature.bind (·.currentSteps.getLast?) else none

-- A doc string follows a step that has no argument yet.
def openFence (reading : Reading) (line : Nat) (raw : List Char) (mark : Char)
    (contentType : Option String) : Except Fault Reading :=
  if reading.openStep?.any (·.argument.isNone) then
    .ok { reading with
      fence := some
        { mark, contentType, start := line, indent := (raw.takeWhile Text.isBlank).length }
      describing := false }
  else .error .strayDocString

def closeFence (reading : Reading) (fence : Fence) : Reading :=
  let docString : DocString := ⟨some fence.content, fence.contentType⟩
  { reading with
    feature := reading.feature.map fun feature =>
      feature.updateSteps (updateLast fun step =>
        { step with argument := some (.docString docString) })
    fence := none }

def takeText (reading : Reading) (text : String) : Except Fault Reading :=
  if !reading.describing then .error (.unexpectedLine text)
  else
    match reading.place with
    | .outside => .ok { reading with feature := reading.feature.map (Feature.describe text) }
    | .examples => .ok reading
    | _ => .ok { reading with feature := reading.feature.map (Feature.describeElement text) }

def takeLine (reading : Reading) (number : Nat) (raw : List Char) : Line → Except Fault Reading
  | .blank => .ok reading
  | .comment => .ok reading
  | .language name =>
      .ok (if reading.feature.isNone then { reading with language := name } else reading)
  | .tags tokens =>
      (tagsOf number tokens).map fun tags =>
        { reading with tags := reading.tags ++ tags, describing := false }
  | .heading heading name => reading.takeHeading number heading name
  | .step word text => reading.takeStep number word text
  | .row text => reading.takeRow text
  | .fence mark contentType => reading.openFence number raw mark contentType
  | .text text => reading.takeText text

def next (reading : Reading) (number : Nat) (raw : List Char) : Except Fault Reading :=
  match reading.fence with
  | some fence =>
      .ok (if fence.isClosedBy raw then reading.closeFence fence
        else { reading with fence := some (fence.push raw) })
  | none => reading.takeLine number raw (Line.ofChars raw)

-- Reads lines that are numbered from the given one. A fault comes with its line.
def readAll (reading : Reading) (number : Nat) : List (List Char) → Except (Fault × Nat) Reading
  | [] => .ok reading
  | raw :: rest =>
      match reading.next number raw with
      | .error fault => .error (fault, number)
      | .ok reading => reading.readAll (number + 1) rest

def finish (reading : Reading) : Except (Fault × Nat) Feature :=
  match reading.fence, reading.feature with
  | some fence, _ => .error (.openDocString, fence.start)
  | none, none => .error (.noFeature, 0)
  | none, some feature => .ok feature

end Reading

namespace Feature

def ofLines (lines : List (List Char)) : Except (Fault × Nat) Feature :=
  (({} : Reading).readAll 1 lines).bind Reading.finish

-- The feature that a text describes. The path only says where the text stands.
def parse (path text : String) : Except ParseError Feature :=
  match ofLines (Text.lines text.toList) with
  | .ok feature => .ok { feature with path }
  | .error (fault, line) => .error { fault, path, line }

end Feature

end Rehearsal
