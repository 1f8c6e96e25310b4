import Rehearsal.Feature.Reader
import Rehearsal.Proofs.Feature.Fence
import Rehearsal.Proofs.Feature.Row
import Rehearsal.Proofs.Text.Lines

namespace Rehearsal

-- What the fence of a doc string can be made of.
inductive Mark where
  | quote
  | backtick
  deriving DecidableEq, Repr

def Mark.char : Mark → Char
  | .quote => '"'
  | .backtick => '\x60'

theorem Mark.char_ne_backslash (mark : Mark) : mark.char ≠ '\\' := by
  cases mark <;> decide

-- What a printed document leaves open: the width of one level of indentation, and the fence of
-- each doc string.
structure Layout where
  width : Nat := 2
  mark : DocString → Mark := fun _ => .quote

namespace Layout

variable (layout : Layout)

def indented (level : Nat) (line : List Char) : List Char :=
  List.replicate (level * layout.width) ' ' ++ line

def tagLine (tags : List Tag) : List Char :=
  [' '].intercalate (tags.map fun tag => '@' :: tag.name.toList)

def tagLines (level : Nat) (tags : List Tag) : List (List Char) :=
  if tags.isEmpty then [] else [layout.indented level (tagLine tags)]

def headingLine (heading : Heading) (name : String) : List Char :=
  heading.word.toList ++ ':' :: if name.isEmpty then [] else ' ' :: name.toList

-- The lines of a description, none if it is empty.
def describing (description : String) : List (List Char) :=
  if description.isEmpty then [] else description.toList.splitOn '\n'

def descriptionLines (level : Nat) (description : String) : List (List Char) :=
  (describing description).map (layout.indented level)

def rowLine (cells : List (Option String)) : List Char :=
  '|' :: Row.ofCells (cells.map fun cell => (cell.getD "").toList)

def rowLines (level : Nat) (rows : List (List (Option String))) : List (List Char) :=
  rows.map fun row => layout.indented level (rowLine row)

def docStringLines (level : Nat) (docString : DocString) : List (List Char) :=
  let mark := (layout.mark docString).char
  layout.indented level (Fence.delimiter mark ++ (docString.contentType.getD "").toList) ::
    (((docString.content.getD "").toList.splitOn '\n').map fun line =>
      layout.indented level (Fence.escaped mark line)) ++
    [layout.indented level (Fence.delimiter mark)]

def argumentLines (level : Nat) : Option Argument → List (List Char)
  | some (.docString docString) => layout.docStringLines level docString
  | some (.table table) => layout.rowLines level table.rows
  | _ => []

def stepLine (step : Step) : List Char := (step.keyword.getD "").toList ++ (step.text.getD "").toList

def stepLines (step : Step) : List (List Char) :=
  layout.indented 2 (stepLine step) :: layout.argumentLines 3 step.argument

def examplesLines (examples : Examples) : List (List Char) :=
  layout.tagLines 2 examples.tags ++
    layout.indented 2 (headingLine .examples examples.name) ::
      layout.rowLines 3 (examples.header.toList ++ examples.rows)

def backgroundLines (background : Background) : List (List Char) :=
  layout.indented 1 (headingLine .background background.name) ::
    (layout.descriptionLines 2 background.description ++ background.steps.flatMap layout.stepLines)

def scenarioLines (scenario : Scenario) : List (List Char) :=
  layout.tagLines 1 scenario.tags ++
    layout.indented 1
        (headingLine (if scenario.isOutline then .outline else .scenario) scenario.name) ::
      (layout.descriptionLines 2 scenario.description ++
        scenario.steps.flatMap layout.stepLines ++
        scenario.examples.flatMap layout.examplesLines)

def languageLine (language : String) : List Char :=
  '#' :: ' ' :: ("language".toList ++ [':', ' ']) ++ language.toList

def featureLines (feature : Feature) : List (List Char) :=
  languageLine (feature.language.getD "") ::
    (layout.tagLines 0 feature.tags ++
      headingLine .feature feature.name ::
        (layout.descriptionLines 1 (feature.description.getD "") ++
          feature.background.toList.flatMap layout.backgroundLines ++
          feature.scenarios.flatMap layout.scenarioLines))

-- The document that describes a feature.
def print (feature : Feature) : String := String.ofList (Text.unlines (layout.featureLines feature))

end Layout

-- A name, or a text that stands at the end of a line.
structure IsName (text : String) : Prop where
  trimmed : Text.trim text.toList = text.toList
  single : Text.IsSingleLine text.toList

def OnlyFeeds (text : List Char) : Prop := ∀ c ∈ text, Text.isLineBreak c → c = '\n'

def Tag.IsPrintable (tag : Tag) : Prop := Text.IsToken tag.name.toList

-- Each line is free text as a whole: it is trimmed, and it is no comment, tag line, heading, step,
-- row or fence.
def IsDescription (description : String) : Prop :=
  ∀ line ∈ Layout.describing description,
    Text.IsSingleLine line ∧ Line.ofChars line = .text (String.ofList line)

def IsCell (cell : Option String) : Prop :=
  ∃ text, cell = some text ∧ Text.trim text.toList = text.toList ∧ OnlyFeeds text.toList

structure DataTable.IsPrintable (table : DataTable) : Prop where
  some_row : table.rows ≠ []
  rectangular : ∀ row ∈ table.rows, ∀ other ∈ table.rows, row.length = other.length
  cells : ∀ row ∈ table.rows, ∀ cell ∈ row, IsCell cell

structure DocString.IsPrintable (mark : Char) (docString : DocString) : Prop where
  content : ∃ text, docString.content = some text ∧ OnlyFeeds text.toList ∧
    ¬Fence.escapedDelimiter mark <:+: text.toList
  contentType : ∀ text ∈ docString.contentType, text ≠ "" ∧ IsName text

def Argument.IsPrintable (layout : Layout) : Argument → Prop
  | .docString value => value.IsPrintable (layout.mark value).char
  | .table value => value.IsPrintable
  | .other _ => False

-- The role of a step is that of its word, after the steps before it.
structure Step.IsPrintable (layout : Layout) (earlier : List Step) (step : Step) : Prop where
  word : ∃ word : StepWord, step.keyword = some (word.word ++ " ") ∧
    step.role = Reading.roleOf earlier word
  text : ∃ text, step.text = some text ∧ text ≠ "" ∧ IsName text
  argument : ∀ argument ∈ step.argument, argument.IsPrintable layout

def StepsArePrintable (layout : Layout) (earlier : List Step) : List Step → Prop
  | [] => True
  | step :: rest =>
      step.IsPrintable layout earlier ∧ StepsArePrintable layout (earlier ++ [step]) rest

structure Examples.IsPrintable (examples : Examples) : Prop where
  name : IsName examples.name
  tags : ∀ tag ∈ examples.tags, tag.IsPrintable
  shape : (examples.header = none ∧ examples.rows = []) ∨
    ∃ header, examples.header = some header ∧ ∀ row ∈ examples.rows, row.length = header.length
  cells : ∀ row ∈ examples.header.toList ++ examples.rows, ∀ cell ∈ row, IsCell cell

structure Background.IsPrintable (layout : Layout) (background : Background) : Prop where
  name : IsName background.name
  description : IsDescription background.description
  steps : StepsArePrintable layout [] background.steps

structure Scenario.IsPrintable (layout : Layout) (scenario : Scenario) : Prop where
  name : IsName scenario.name
  tags : ∀ tag ∈ scenario.tags, tag.IsPrintable
  description : IsDescription scenario.description
  steps : StepsArePrintable layout [] scenario.steps
  examples : ∀ examples ∈ scenario.examples, examples.IsPrintable

structure Feature.IsPrintable (layout : Layout) (feature : Feature) : Prop where
  name : IsName feature.name
  tags : ∀ tag ∈ feature.tags, tag.IsPrintable
  language : ∃ language, feature.language = some language ∧ Text.IsToken language.toList
  description : ∃ description, feature.description = some description ∧ IsDescription description
  background : ∀ background ∈ feature.background, background.IsPrintable layout
  scenarios : ∀ scenario ∈ feature.scenarios, scenario.IsPrintable layout

section Decidable

instance decidableExistsSome {α : Type} {x : Option α} {P : α → Prop} [DecidablePred P] :
    Decidable (∃ a, x = some a ∧ P a) :=
  match x with
  | none => isFalse (by simp)
  | some a => decidable_of_iff (P a) (by simp)

instance (text : String) : Decidable (IsName text) :=
  decidable_of_iff (Text.trim text.toList = text.toList ∧ Text.IsSingleLine text.toList)
    ⟨fun h => ⟨h.1, h.2⟩, fun h => ⟨h.trimmed, h.single⟩⟩

instance (text : List Char) : Decidable (OnlyFeeds text) :=
  decidable_of_iff (text.all fun c => !Text.isLineBreak c || c == '\n')
    (by simp [OnlyFeeds, imp_iff_not_or])

instance (tag : Tag) : Decidable tag.IsPrintable :=
  inferInstanceAs (Decidable (Text.IsToken tag.name.toList))

instance (description : String) : Decidable (IsDescription description) :=
  inferInstanceAs (Decidable (∀ line ∈ Layout.describing description,
    Text.IsSingleLine line ∧ Line.ofChars line = .text (String.ofList line)))

instance (cell : Option String) : Decidable (IsCell cell) :=
  inferInstanceAs (Decidable (∃ text, cell = some text ∧
    Text.trim text.toList = text.toList ∧ OnlyFeeds text.toList))

instance (table : DataTable) : Decidable table.IsPrintable :=
  decidable_of_iff (table.rows ≠ [] ∧
    (∀ row ∈ table.rows, ∀ other ∈ table.rows, row.length = other.length) ∧
    ∀ row ∈ table.rows, ∀ cell ∈ row, IsCell cell)
    ⟨fun h => ⟨h.1, h.2.1, h.2.2⟩, fun h => ⟨h.some_row, h.rectangular, h.cells⟩⟩

instance (mark : Char) (docString : DocString) : Decidable (docString.IsPrintable mark) :=
  decidable_of_iff ((∃ text, docString.content = some text ∧ OnlyFeeds text.toList ∧
      ¬Fence.escapedDelimiter mark <:+: text.toList) ∧
    ∀ text ∈ docString.contentType, text ≠ "" ∧ IsName text)
    ⟨fun h => ⟨h.1, h.2⟩, fun h => ⟨h.content, h.contentType⟩⟩

instance (layout : Layout) (argument : Argument) : Decidable (argument.IsPrintable layout) :=
  match argument with
  | .docString value => inferInstanceAs (Decidable (value.IsPrintable (layout.mark value).char))
  | .table value => inferInstanceAs (Decidable value.IsPrintable)
  | .other _ => inferInstanceAs (Decidable False)

theorem StepWord.mem_all (word : StepWord) : word ∈ StepWord.all := by
  cases word with
  | role played => cases played <;> decide
  | star => decide

instance (layout : Layout) (earlier : List Step) (step : Step) :
    Decidable (step.IsPrintable layout earlier) :=
  decidable_of_iff ((∃ word ∈ StepWord.all, step.keyword = some (word.word ++ " ") ∧
      step.role = Reading.roleOf earlier word) ∧
    (∃ text, step.text = some text ∧ text ≠ "" ∧ IsName text) ∧
    ∀ argument ∈ step.argument, argument.IsPrintable layout)
    ⟨fun ⟨⟨word, _, hword⟩, htext, hargument⟩ => ⟨⟨word, hword⟩, htext, hargument⟩,
      fun ⟨⟨word, hword⟩, htext, hargument⟩ => ⟨⟨word, word.mem_all, hword⟩, htext, hargument⟩⟩

instance decidableStepsArePrintable (layout : Layout) :
    ∀ earlier steps, Decidable (StepsArePrintable layout earlier steps)
  | _, [] => isTrue trivial
  | earlier, step :: rest =>
      have := decidableStepsArePrintable layout (earlier ++ [step]) rest
      inferInstanceAs (Decidable (step.IsPrintable layout earlier ∧
        StepsArePrintable layout (earlier ++ [step]) rest))

instance (examples : Examples) : Decidable examples.IsPrintable :=
  decidable_of_iff (IsName examples.name ∧ (∀ tag ∈ examples.tags, tag.IsPrintable) ∧
    ((examples.header = none ∧ examples.rows = []) ∨
      ∃ header, examples.header = some header ∧
        ∀ row ∈ examples.rows, row.length = header.length) ∧
    ∀ row ∈ examples.header.toList ++ examples.rows, ∀ cell ∈ row, IsCell cell)
    ⟨fun h => ⟨h.1, h.2.1, h.2.2.1, h.2.2.2⟩, fun h => ⟨h.name, h.tags, h.shape, h.cells⟩⟩

instance (layout : Layout) (background : Background) : Decidable (background.IsPrintable layout) :=
  decidable_of_iff (IsName background.name ∧ IsDescription background.description ∧
    StepsArePrintable layout [] background.steps)
    ⟨fun h => ⟨h.1, h.2.1, h.2.2⟩, fun h => ⟨h.name, h.description, h.steps⟩⟩

instance (layout : Layout) (scenario : Scenario) : Decidable (scenario.IsPrintable layout) :=
  decidable_of_iff (IsName scenario.name ∧ (∀ tag ∈ scenario.tags, tag.IsPrintable) ∧
    IsDescription scenario.description ∧ StepsArePrintable layout [] scenario.steps ∧
    ∀ examples ∈ scenario.examples, examples.IsPrintable)
    ⟨fun h => ⟨h.1, h.2.1, h.2.2.1, h.2.2.2.1, h.2.2.2.2⟩,
      fun h => ⟨h.name, h.tags, h.description, h.steps, h.examples⟩⟩

instance (layout : Layout) (feature : Feature) : Decidable (feature.IsPrintable layout) :=
  decidable_of_iff (IsName feature.name ∧ (∀ tag ∈ feature.tags, tag.IsPrintable) ∧
    (∃ language, feature.language = some language ∧ Text.IsToken language.toList) ∧
    (∃ description, feature.description = some description ∧ IsDescription description) ∧
    (∀ background ∈ feature.background, background.IsPrintable layout) ∧
    ∀ scenario ∈ feature.scenarios, scenario.IsPrintable layout)
    ⟨fun h => ⟨h.1, h.2.1, h.2.2.1, h.2.2.2.1, h.2.2.2.2.1, h.2.2.2.2.2⟩,
      fun h => ⟨h.name, h.tags, h.language, h.description, h.background, h.scenarios⟩⟩

end Decidable

namespace Layout

def numberedTags (n : Nat) (tags : List Tag) : List Tag := tags.map fun tag => { tag with line := n }

-- Parts that are printed one after the other, each numbered from the line where it starts.
def numberedAll {α : Type} (linesOf : α → List (List Char)) (number : Nat → α → α) (n : Nat) :
    List α → List α
  | [] => []
  | part :: rest => number n part :: numberedAll linesOf number (n + (linesOf part).length) rest

variable (layout : Layout)

def numberedSteps (n : Nat) (steps : List Step) : List Step :=
  numberedAll layout.stepLines (fun line step => { step with line }) n steps

def numberedExamples (n : Nat) (examples : Examples) : Examples :=
  { examples with
    tags := numberedTags n examples.tags
    line := n + (layout.tagLines 2 examples.tags).length }

def numberedBackground (n : Nat) (background : Background) : Background :=
  { background with
    line := n
    steps := layout.numberedSteps (n + 1 + (layout.descriptionLines 2 background.description).length)
      background.steps }

def numberedScenario (n : Nat) (scenario : Scenario) : Scenario :=
  let heading := n + (layout.tagLines 1 scenario.tags).length
  let described := layout.descriptionLines 2 scenario.description
  { scenario with
    tags := numberedTags n scenario.tags
    line := heading
    steps := layout.numberedSteps (heading + 1 + described.length) scenario.steps
    examples := numberedAll layout.examplesLines layout.numberedExamples
      (heading + 1 + (described ++ scenario.steps.flatMap layout.stepLines).length)
      scenario.examples }

-- The feature with the lines where its parts are printed.
def numbered (feature : Feature) : Feature :=
  let heading := 2 + (layout.tagLines 0 feature.tags).length
  let described := layout.descriptionLines 1 (feature.description.getD "")
  { feature with
    tags := numberedTags 2 feature.tags
    background := feature.background.map (layout.numberedBackground (heading + 1 + described.length))
    scenarios := numberedAll layout.scenarioLines layout.numberedScenario
      (heading + 1 +
        (described ++ feature.background.toList.flatMap layout.backgroundLines).length)
      feature.scenarios }

end Layout

end Rehearsal
