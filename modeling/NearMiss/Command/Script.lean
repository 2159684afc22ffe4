import NearMiss.Checker
import NearMiss.Console.Table
import NearMiss.Corpus
import NearMiss.FileTree.Basic
import NearMiss.Release
import NearMiss.Settings.Surroundings

/-!
# Scripts

A command works out a script: what is printed and written, step by step, and how it ends. A step
that fails ends the script, and what was done before it stays done. What is printed is laid out for
a console without an edge. The log is left out.
-/

namespace NearMiss.Command

open Console

/-- A failure that ends a command without a report of its own. -/
inductive Crash where
  /-- The settings cannot be had. -/
  | settings (failure : Settings.Failure)
  /-- The corpus cannot be had, for a reason that has no report. -/
  | corpus (error : Corpus.LoadError)
  /-- The address template cannot be filled in. -/
  | template (error : TemplateError)
  /-- The archive of a release cannot be had, for a reason that is not reported. -/
  | release (error : ReleaseError)
  /-- A source file cannot be checked. -/
  | checker (error : Checker.Error)
  /-- A text that is printed has wrong markup. -/
  | markup (error : MarkupError)
  /-- A file or directory cannot be written. -/
  | file (error : FileError)
  deriving DecidableEq, Repr

/-- The wording of a failure. -/
def Crash.message : Crash → String
  | .settings failure => failure.message
  | .corpus error => error.message
  | .template error => error.message
  | .release error => error.message
  | .checker error => error.message
  | .markup error => error.message
  | .file error => error.message

/-- A step of a script. -/
inductive Step where
  /-- Prints a text with markup. -/
  | print (markup : String)
  /-- Prints a text with markup as an error. -/
  | warn (markup : String)
  /-- Prints a table. -/
  | table (table : Table)
  /-- Prints a text as it is, and a line feed. -/
  | echo (text : String)
  /-- Makes a directory and those that lead to it. -/
  | makeDirectories (path : Path)
  /-- Writes a file. -/
  | write (path : Path) (octets : List UInt8)
  deriving DecidableEq, Repr

/-- The steps of a command and its end: an exit status, or a failure. -/
structure Script where
  /-- The steps, in order. -/
  steps : List Step
  /-- How it ends if all steps succeed. -/
  ending : Except Crash Nat

/-- The script that ends with an exit status. -/
def Script.ofSteps (steps : List Step) (status : Nat) : Script :=
  ⟨steps, .ok status⟩

/-- The script that only fails. -/
def Script.ofCrash (crash : Crash) : Script :=
  ⟨[], .error crash⟩

/-- What can be seen of a command so far. -/
structure Progress where
  /-- What was printed. -/
  stdout : String := ""
  /-- What was printed as errors. -/
  stderr : String := ""
  /-- The files as they are now. -/
  files : FileTree

namespace Progress

/-- The progress after a step. -/
def after (progress : Progress) : Step → Except Crash Progress
  | .print markup =>
    match printed markup with
    | .error error => .error (.markup error)
    | .ok text => .ok { progress with stdout := progress.stdout ++ text }
  | .warn markup =>
    match printed markup with
    | .error error => .error (.markup error)
    | .ok text => .ok { progress with stderr := progress.stderr ++ text }
  | .table table =>
    match table.printed with
    | .error error => .error (.markup error)
    | .ok text => .ok { progress with stdout := progress.stdout ++ text }
  | .echo text => .ok { progress with stdout := progress.stdout ++ text ++ "\n" }
  | .makeDirectories path =>
    match progress.files.makeDirectories path with
    | .error error => .error (.file error)
    | .ok files => .ok { progress with files }
  | .write path octets =>
    match progress.files.write path octets with
    | .error error => .error (.file error)
    | .ok files => .ok { progress with files }

/-- The progress after steps, up to the first that fails, and the failure. -/
def run (progress : Progress) : List Step → Progress × Option Crash
  | [] => (progress, none)
  | step :: later =>
    match progress.after step with
    | .error crash => (progress, some crash)
    | .ok progress => progress.run later

end Progress

/-- What a command comes to. -/
structure Outcome where
  /-- The exit status. -/
  status : Nat
  /-- What was printed. -/
  stdout : String
  /-- What was printed as errors. -/
  stderr : String
  /-- The failure that ended it, if one did. -/
  crash : Option Crash
  /-- The files behind it. -/
  files : FileTree

/-- What a script comes to on the given files. -/
def Script.run (script : Script) (files : FileTree) : Outcome :=
  let (progress, failed) := Progress.run { files } script.steps
  match failed, script.ending with
  | some crash, _ => ⟨1, progress.stdout, progress.stderr, some crash, progress.files⟩
  | none, .error crash => ⟨1, progress.stdout, progress.stderr, some crash, progress.files⟩
  | none, .ok status => ⟨status, progress.stdout, progress.stderr, none, progress.files⟩

end NearMiss.Command
