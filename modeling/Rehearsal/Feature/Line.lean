import Rehearsal.Feature.Basic
import Rehearsal.Text.Blank

namespace Rehearsal

inductive Heading where
  | feature
  | background
  | outline
  | template
  | scenarios
  | scenario
  | examples
  | example
  deriving DecidableEq, Repr

namespace Heading

def word : Heading → String
  | .feature => "Feature"
  | .background => "Background"
  | .outline => "Scenario Outline"
  | .template => "Scenario Template"
  | .scenarios => "Scenarios"
  | .scenario => "Scenario"
  | .examples => "Examples"
  | .example => "Example"

def all : List Heading :=
  [.feature, .background, .outline, .template, .scenarios, .scenario, .examples, .example]

-- The name that follows the heading's word and a colon.
def name? (heading : Heading) (line : List Char) : Option String :=
  (heading.word.toList.isPrefixOf? line).bind fun rest =>
    match Text.trimStart rest with
    | ':' :: name => some (String.ofList (Text.trim name))
    | _ => none

end Heading

-- The word that opens a step: that of a role, or a star that takes its role from its place.
inductive StepWord where
  | role (played : Role)
  | star
  deriving DecidableEq, Repr

namespace StepWord

def word : StepWord → String
  | .role played => played.word
  | .star => "*"

def all : List StepWord := Role.all.map .role ++ [.star]

-- The text that follows the word and at least one blank.
def text? (opener : StepWord) (line : List Char) : Option String :=
  (opener.word.toList.isPrefixOf? line).bind fun rest =>
    if rest.head?.any Text.isBlank then some (String.ofList (Text.trim rest)) else none

end StepWord

-- What a line of a feature document says, doc strings aside.
inductive Line where
  | blank
  | comment
  | language (name : String)
  | tags (tokens : List String)
  | heading (heading : Heading) (name : String)
  | step (word : StepWord) (text : String)
  | row (text : List Char)
  | fence (mark : Char) (contentType : Option String)
  | text (text : String)
  deriving DecidableEq, Repr

namespace Line

-- The language that a comment sets: one token after the word and a colon.
def language? (comment : List Char) : Option String :=
  ("language".toList.isPrefixOf? (Text.trimStart comment)).bind fun rest =>
    match Text.trimStart rest with
    | ':' :: name =>
        match Text.tokens name with
        | [token] => some (String.ofList token)
        | _ => none
    | _ => none

def contentType? (text : List Char) : Option String :=
  match Text.trim text with
  | [] => none
  | c :: rest => some (String.ofList (c :: rest))

def heading? (line : List Char) : Option Line :=
  Heading.all.findSome? fun heading => (heading.name? line).map (.heading heading)

def step? (line : List Char) : Option Line :=
  StepWord.all.findSome? fun word => (word.text? line).map (.step word)

def fence? (line : List Char) : Option Line :=
  ['"', '\x60'].findSome? fun mark =>
    ([mark, mark, mark].isPrefixOf? line).map fun rest => .fence mark (contentType? rest)

-- A line without the blanks around it. Tags of a tag line end at a comment.
def ofTrimmed : List Char → Line
  | [] => .blank
  | '#' :: rest => ((language? rest).map .language).getD .comment
  | '@' :: rest => .tags ((Text.tokens ('@' :: rest)).map String.ofList)
  | line =>
      ((heading? line).or (step? line)).getD <|
        match line with
        | '|' :: rest => .row rest
        | _ => (fence? line).getD (.text (String.ofList line))

def ofChars (line : List Char) : Line := ofTrimmed (Text.trim line)

end Line

end Rehearsal
