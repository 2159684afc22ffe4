/-!
# Command lines

A command line is a list of words: options, their values, and positional arguments. Long options
begin with two dashes and may carry their value behind an equals sign. Short ones begin with one
dash, can be run together, and may carry their value directly behind the letter. Two dashes alone
end the options.
-/

namespace NearMiss.Command

/-- Why a command line cannot be used. -/
inductive UsageError where
  /-- There is no command. -/
  | noCommand
  /-- There is no such command. -/
  | unknownCommand (name : String)
  /-- There is no such option. -/
  | unknownOption (name : String)
  /-- An option lacks its value. -/
  | missingValue (name : String)
  /-- An option that takes no value is given one. -/
  | unexpectedValue (name : String)
  /-- An argument is missing. -/
  | missingArgument (name : String)
  /-- There is an argument too many. -/
  | extraArgument (text : String)
  /-- A path that must lead to something leads to nothing. -/
  | noSuchPath (text : String)
  /-- A path leads to a directory where a file is meant. -/
  | notFile (text : String)
  /-- A path leads to a file where a directory is meant. -/
  | notDirectory (text : String)
  deriving DecidableEq, Repr

/-- The wording of a usage error. -/
def UsageError.message : UsageError → String
  | .noCommand => "Missing command."
  | .unknownCommand name => s!"No such command '{name}'."
  | .unknownOption name => s!"No such option: {name}"
  | .missingValue name => s!"Option '{name}' requires an argument."
  | .unexpectedValue name => s!"Option '{name}' does not take a value."
  | .missingArgument name => s!"Missing argument '{name}'."
  | .extraArgument text => s!"Got unexpected extra argument ({text})"
  | .noSuchPath text => s!"Path '{text}' does not exist."
  | .notFile text => s!"File '{text}' is a directory."
  | .notDirectory text => s!"Directory '{text}' is a file."

/-- An option that a command knows. -/
structure OptionSpec where
  /-- Its long name, dashes included. -/
  long : String
  /-- Its letter, if it has one. -/
  short : Option Char := none
  /-- Whether a value belongs to it. -/
  takesValue : Bool
  deriving DecidableEq, Repr

/-- The options, each with its value if it takes one, and the positional arguments of a command
line, both in order. -/
structure Arguments where
  /-- The options under their long names. -/
  options : List (String × Option String) := []
  /-- The positional arguments. -/
  positional : List String := []
  deriving DecidableEq, Repr

namespace Arguments

/-- Whether an option is given. -/
def has (arguments : Arguments) (long : String) : Bool :=
  arguments.options.any (·.1 == long)

/-- The value of an option; if it is given more than once, the last counts. -/
def value? (arguments : Arguments) (long : String) : Option String :=
  (arguments.options.reverse.lookup long).join

/-- The arguments with options in front. -/
def addOptions (found : List (String × Option String)) (arguments : Arguments) : Arguments :=
  { arguments with options := found ++ arguments.options }

/-- The arguments with a positional one in front. -/
def addPositional (text : String) (arguments : Arguments) : Arguments :=
  { arguments with positional := text :: arguments.positional }

/-- Options that were read from a word, and the one that takes the next word as its value. -/
abbrev Found := List (String × Option String) × Option String

/-- Reads a word that begins with two dashes. -/
def readLong (specs : List OptionSpec) (word : List Char) : Except UsageError Found :=
  let name := String.ofList (word.takeWhile (· != '='))
  match specs.find? (·.long == name), word.dropWhile (· != '=') with
  | none, _ => .error (.unknownOption name)
  | some spec, [] => .ok (if spec.takesValue then ([], some name) else ([(name, none)], none))
  | some spec, _ :: value =>
    if spec.takesValue then .ok ([(name, some (String.ofList value))], none)
    else .error (.unexpectedValue name)

/-- Reads the letters behind a single dash. -/
def readShort (specs : List OptionSpec) : List Char → Except UsageError Found
  | [] => .ok ([], none)
  | letter :: rest =>
    match specs.find? (·.short == some letter) with
    | none => .error (.unknownOption (String.ofList ['-', letter]))
    | some spec =>
      if spec.takesValue then
        if rest.isEmpty then .ok ([], some spec.long)
        else .ok ([(spec.long, some (String.ofList rest))], none)
      else
        match readShort specs rest with
        | .error error => .error error
        | .ok (found, waiting) => .ok ((spec.long, none) :: found, waiting)

/-- Reads words. `waiting` is the option that takes the first of them as its value. Positional
arguments may stand between options, or else the first of them ends the options. -/
def read (specs : List OptionSpec) (interspersed : Bool) (waiting : Option String) :
    List String → Except UsageError Arguments
  | [] =>
    match waiting with
    | some name => .error (.missingValue name)
    | none => .ok {}
  | word :: later =>
    match waiting with
    | some name => (addOptions [(name, some word)]) <$> read specs interspersed none later
    | none =>
      match word.toList with
      | ['-', '-'] => .ok { positional := later }
      | '-' :: '-' :: _ =>
        match readLong specs word.toList with
        | .error error => .error error
        | .ok (found, waiting) => addOptions found <$> read specs interspersed waiting later
      | '-' :: letter :: rest =>
        match readShort specs (letter :: rest) with
        | .error error => .error error
        | .ok (found, waiting) => addOptions found <$> read specs interspersed waiting later
      | _ =>
        if interspersed then addPositional word <$> read specs interspersed none later
        else .ok { positional := word :: later }

end Arguments

end NearMiss.Command
