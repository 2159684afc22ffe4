import NearMiss.Command.Arguments
import NearMiss.FileTree.Basic

/-!
# Invocations

The commands with their arguments. Paths that must lead somewhere are checked against the files
before a command begins.
-/

namespace NearMiss.Command

/-- A command and its arguments, the paths as they were written. -/
inductive Invocation where
  /-- Checks source files and directories. -/
  | check (paths : List String) (corpus : Option String) (json strict : Bool)
  /-- Looks the interfaces with a method's shape up. -/
  | lookup (signature : String) (corpus : Option String) (json : Bool)
  /-- Harvests a corpus. -/
  | build (version sourceDir archive : Option String) (output : String)
  /-- Tells how the program is used. -/
  | help
  deriving DecidableEq, Repr

namespace Invocation

/-- Asks for help. -/
def helpOption : OptionSpec := ⟨"--help", none, false⟩

/-- Gives a corpus file. -/
def corpusOption : OptionSpec := ⟨"--corpus", some 'c', true⟩

/-- Asks for output as JSON. -/
def jsonOption : OptionSpec := ⟨"--json", none, false⟩

/-- The options before the command. `--verbose` only asks for more to be printed as errors: the
trace of a failure and the log. Neither is modelled, so the option is read and changes nothing. -/
def commonOptions : List OptionSpec :=
  [⟨"--verbose", some 'v', false⟩, helpOption]

/-- The options of `check`. -/
def checkOptions : List OptionSpec :=
  [corpusOption, jsonOption, ⟨"--strict", none, false⟩, helpOption]

/-- The options of `lookup`. -/
def lookupOptions : List OptionSpec :=
  [corpusOption, jsonOption, helpOption]

/-- The options of `build-corpus`. -/
def buildOptions : List OptionSpec :=
  [⟨"--version", none, true⟩, ⟨"--source-dir", none, true⟩, ⟨"--archive", none, true⟩,
    ⟨"--output", some 'o', true⟩, helpOption]

/-- Where a corpus is written if nothing else is said. -/
def defaultOutput : String := "go-interfaces.json"

/-- The `check` command with the given arguments. -/
def ofCheck (arguments : Arguments) : Except UsageError Invocation :=
  if arguments.positional.isEmpty then .error (.missingArgument "PATHS...")
  else
    .ok (.check arguments.positional (arguments.value? "--corpus") (arguments.has "--json")
      (arguments.has "--strict"))

/-- The `lookup` command with the given arguments. -/
def ofLookup (arguments : Arguments) : Except UsageError Invocation :=
  match arguments.positional with
  | [] => .error (.missingArgument "SIGNATURE")
  | [signature] => .ok (.lookup signature (arguments.value? "--corpus") (arguments.has "--json"))
  | _ :: extra :: _ => .error (.extraArgument extra)

/-- The `build-corpus` command with the given arguments. -/
def ofBuild (arguments : Arguments) : Except UsageError Invocation :=
  match arguments.positional with
  | [] =>
    .ok (.build (arguments.value? "--version") (arguments.value? "--source-dir")
      (arguments.value? "--archive") ((arguments.value? "--output").getD defaultOutput))
  | extra :: _ => .error (.extraArgument extra)

/-- Reads the words behind the name of a command. -/
def ofWords (specs : List OptionSpec) (ofArguments : Arguments → Except UsageError Invocation)
    (words : List String) : Except UsageError Invocation := do
  let arguments ← Arguments.read specs true none words
  if arguments.has "--help" then return .help else ofArguments arguments

/-- Reads a command line. Of the options before the command only the call for help counts. -/
def parse (words : List String) : Except UsageError Invocation := do
  let common ← Arguments.read commonOptions false none words
  if common.has "--help" then return .help
  match common.positional with
  | [] => throw .noCommand
  | "check" :: later => ofWords checkOptions ofCheck later
  | "lookup" :: later => ofWords lookupOptions ofLookup later
  | "build-corpus" :: later => ofWords buildOptions ofBuild later
  | name :: _ => throw (.unknownCommand name)

/-! ## Paths -/

/-- The paths of files and directories that are read or written. -/
def paths : Invocation → List String
  | .check paths corpus _ _ => paths ++ corpus.toList
  | .lookup _ corpus _ => corpus.toList
  | .build _ sourceDir archive output => sourceDir.toList ++ archive.toList ++ [output]
  | .help => []

/-- Whether a written path can only lead to a directory: it ends with a slash or a single dot. -/
def demandsDirectory (text : String) : Bool :=
  let last := (Text.splitString '/' text).getLastD ""
  last == "" || last == "."

/-- The path that is written, if it leads somewhere. -/
def existing (tree : FileTree) (text : String) : Except UsageError Path :=
  let path := Path.ofString text
  match tree.find path with
  | .error _ => .error (.noSuchPath text)
  | .ok (.file _) => if demandsDirectory text then .error (.noSuchPath text) else .ok path
  | .ok .directory => if text = "" then .error (.noSuchPath text) else .ok path

/-- The absolute path of the file that a written path leads to. -/
def existingFile (tree : FileTree) (text : String) : Except UsageError Path :=
  let path := tree.absolute (Path.ofString text)
  match tree.find path with
  | .error _ => .error (.noSuchPath text)
  | .ok .directory => .error (.notFile text)
  | .ok (.file _) => .ok path

/-- The absolute path of the directory that a written path leads to. -/
def existingDirectory (tree : FileTree) (text : String) : Except UsageError Path :=
  let path := tree.absolute (Path.ofString text)
  match tree.find path with
  | .error _ => .error (.noSuchPath text)
  | .ok (.file _) => .error (.notDirectory text)
  | .ok .directory => .ok path

end Invocation

end NearMiss.Command
