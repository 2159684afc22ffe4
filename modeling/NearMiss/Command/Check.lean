import NearMiss.Command.Script
import NearMiss.Command.Tables
import NearMiss.FileTree.Walk

/-!
# Checking files

The `check` command goes through source files and reports every near miss. A file that cannot be
read is reported and costs nothing else.
-/

namespace NearMiss.Command

/-- The names of directories that are not checked. -/
def skippedDirs : List String := ["vendor", "testdata"]

/-- Whether something found below a directory is checked. -/
def isChecked (names : List String) : Bool :=
  !FileTree.isTestName (names.getLastD "") && !names.any skippedDirs.contains

/-- The source files that a path stands for: the file it leads to, or those below the directory. -/
def filesAt (tree : FileTree) (path : Path) : List Path :=
  if tree.isFile path then [path]
  else
    ((tree.sources path).filter fun (names, _) => isChecked names).map fun (names, _) =>
      path.descend names

/-- The source files that paths stand for. -/
def collect (tree : FileTree) (paths : List Path) : List Path :=
  paths.flatMap (filesAt tree)

/-- What comes of a file: its diagnostics, or the reason why it cannot be read. -/
abbrev Finding := Path × Except String (List Diagnostic)

/-- Checks a file. -/
def examine (checker : Checker) (tree : FileTree) (path : Path) : Except Checker.Error Finding :=
  match tree.read path with
  | .error error => .ok (path, .error error.message)
  | .ok octets =>
    match checker.octets octets with
    | .ok diagnostics => .ok (path, .ok diagnostics)
    | .error (.undecodable error) => .ok (path, .error error.message)
    | .error error => .error error

/-- The warning about a file that cannot be read. -/
def warning? : Finding → Option Step
  | (path, .error reason) =>
    some (.warn s!"[yellow]Warning:[/yellow] Cannot read {path.text}: {reason}")
  | (_, .ok _) => none

/-- The rows that a file contributes. -/
def rowsOf : Finding → List Row
  | (path, .ok diagnostics) => diagnostics.map fun d => (path.text, d)
  | (_, .error _) => []

/-- The JSON value of a row. -/
def Row.toJson : Row → Json
  | (file, d) => .obj (("file", .str file) :: d.toFields .camel)

/-- The steps that show rows. -/
def showRows (json : Bool) (rows : List Row) : List Step :=
  if json then [.echo (Json.arr (rows.map Row.toJson)).pretty]
  else if rows.isEmpty then [.print "[green]✓[/green] No near-miss interface methods found"]
  else
    .table (diagnosticsTable rows) :: rows.map fun (file, d) =>
      .print s!"[dim]{file}:{d.line + 1}[/dim] {d.message}"

/-- The script of the `check` command. In strict mode a near miss is a failure. -/
def checkScript (checker : Checker) (tree : FileTree) (paths : List Path) (json strict : Bool) :
    Script :=
  match (collect tree paths).mapM (examine checker tree) with
  | .error error => .ofCrash (.checker error)
  | .ok findings =>
    let rows := findings.flatMap rowsOf
    .ofSteps (findings.filterMap warning? ++ showRows json rows)
      (if strict && !rows.isEmpty then 1 else 0)

end NearMiss.Command
