import Rehearsal.Command.Options

namespace Rehearsal.Shell

open Command

-- Options that take a value.
inductive Key where
  | features
  | output
  | config
  | environment
  | tag
  | target
  deriving DecidableEq, Repr

namespace Key

def all : List Key := [.features, .output, .config, .environment, .tag, .target]

def long : Key → String
  | .features => "--features"
  | .output => "--output"
  | .config => "--config"
  | .environment => "--env"
  | .tag => "--tags"
  | .target => "--namespace"

def short : Key → Char
  | .features => 'f'
  | .output => 'o'
  | .config => 'c'
  | .environment => 'e'
  | .tag => 't'
  | .target => 'n'

end Key

inductive Flag where
  | noRetry
  | print
  | version
  | help
  deriving DecidableEq, Repr

namespace Flag

def all : List Flag := [.noRetry, .print, .version, .help]

def long : Flag → String
  | .noRetry => "--no-retry"
  | .print => "--stdout"
  | .version => "--version"
  | .help => "--help"

end Flag

-- What can be asked for in place of a run.
inductive Question where
  | version
  | help
  deriving DecidableEq, Repr

structure Arguments where
  options : Options := {}
  -- The first question.
  question : Option Question := none
  -- Arguments that belong to no option.
  extra : List String := []
  deriving DecidableEq, Repr

-- The last value counts, except for tags, which add up.
def set (options : Options) (key : Key) (value : String) : Options :=
  match key with
  | .features => { options with features := value }
  | .output => { options with output := value }
  | .config => { options with config := value }
  | .environment => { options with environment := value }
  | .tag => { options with tags := options.tags ++ [value] }
  | .target => { options with target := value }

namespace Arguments

def set (arguments : Arguments) (key : Key) (value : String) : Arguments :=
  { arguments with options := Shell.set arguments.options key value }

def ask (arguments : Arguments) (question : Question) : Arguments :=
  { arguments with question := arguments.question.or (some question) }

def raise (arguments : Arguments) (flag : Flag) : Arguments :=
  match flag with
  | .noRetry => { arguments with options := { arguments.options with noRetry := true } }
  | .print => { arguments with options := { arguments.options with print := true } }
  | .version => arguments.ask .version
  | .help => arguments.ask .help

def leave (arguments : Arguments) (extra : List String) : Arguments :=
  { arguments with extra := arguments.extra ++ extra }

end Arguments

-- What one argument means by itself.
inductive Word where
  | stop
  | extra
  | raised (flag : Flag)
  | given (key : Key) (value : String)
  | awaits (key : Key)
  | refused
  deriving DecidableEq, Repr

namespace Word

def isEquals (c : Char) : Bool := c == '='

def ofLong (name : String) (value : Option String) : Word :=
  match Key.all.find? (·.long == name), Flag.all.find? (·.long == name), value with
  | some key, _, some value => .given key value
  | some key, _, none => .awaits key
  | none, some flag, none => .raised flag
  | none, _, _ => .refused

def ofShort (c : Char) (rest : List Char) : Word :=
  match Key.all.find? (·.short == c) with
  | some key => if rest.isEmpty then .awaits key else .given key (String.ofList rest)
  | none => .refused

-- A long option may have its value after an equals sign, a short one directly behind it. A dash
-- alone is no option.
def ofChars (text : List Char) : Word :=
  match text with
  | ['-', '-'] => .stop
  | '-' :: '-' :: rest =>
      let name := String.ofList ('-' :: '-' :: rest.takeWhile (!isEquals ·))
      match rest.dropWhile (!isEquals ·) with
      | [] => ofLong name none
      | _ :: value => ofLong name (some (String.ofList value))
  | '-' :: c :: rest => ofShort c rest
  | _ => .extra

end Word

namespace Arguments

-- An option without its value, a flag with one and an unknown option are refused. The value of an
-- option may look like an option itself.
def readFrom (known : Arguments) : List String → Option Arguments
  | [] => some known
  | argument :: rest =>
      match Word.ofChars argument.toList with
      | .stop => some (known.leave rest)
      | .extra => readFrom (known.leave [argument]) rest
      | .raised flag => readFrom (known.raise flag) rest
      | .given key value => readFrom (known.set key value) rest
      | .awaits key =>
          match rest with
          | [] => none
          | value :: rest => readFrom (known.set key value) rest
      | .refused => none

def read? (arguments : List String) : Option Arguments := readFrom {} arguments

end Arguments

end Rehearsal.Shell
