import NearMiss.Command.Script
import NearMiss.Command.Tables

/-!
# Looking a method up

The `lookup` command shows the parts of a method, the interface methods that have its shape, and how
it could be renamed.
-/

namespace NearMiss.Command

/-- What a lookup finds. -/
structure LookupResult where
  /-- The method. -/
  method : Method
  /-- The interface methods of its shape. -/
  bucket : List InterfaceMethod
  /-- Whether the method is worth comparing. -/
  isCandidate : Bool
  /-- The suggestions about it. -/
  suggestions : List Suggestion
  deriving DecidableEq, Repr

/-- The declaration that a lookup is about: a line that begins with the keyword is a whole line of
source, any other text is a declaration already. There may be none. -/
def declarationOf? (keyword text : String) : Option String :=
  let trimmed := String.ofList (Text.trim text.toList)
  let declaration :=
    if Declaration.startsWithKeyword trimmed keyword then
      ((Declaration.locate? trimmed).map (·.text)).getD ""
    else trimmed
  if declaration = "" then none else some declaration

/-- Looks a declaration up. -/
def lookup (checker : Checker) (declaration : String) : LookupResult :=
  let m := Method.parse declaration
  let isCandidate := m.isCandidate checker.minParams
  { method := m
    bucket := (checker.index.lookup? m).getD []
    isCandidate := isCandidate
    suggestions := if isCandidate then Suggestion.forMethod checker.index m else [] }

/-- The JSON value of what a lookup finds. -/
def LookupResult.toJson (result : LookupResult) : Json :=
  .obj [("method", result.method.toJson .camel), ("key", .str result.method.key),
    ("matches", .arr (result.bucket.map (InterfaceMethod.toJson .camel))),
    ("suggestions", .arr (result.suggestions.map (Suggestion.toJson .camel)))]

/-- The steps that show what a lookup finds. -/
def LookupResult.steps (result : LookupResult) : List Step :=
  let parts : List Step :=
    [.table (paramsTable result.method),
      .print s!"[blue]Signature key:[/blue] {result.method.key}"]
  let remark : List Step :=
    if result.isCandidate then []
    else [.print "[yellow]Not a rename candidate (needs a name and parameters)[/yellow]"]
  let bucket : List Step :=
    if result.bucket.isEmpty then [.print "[yellow]No interface method has this shape[/yellow]"]
    else
      [.print s!"\n[green]Interface methods with this shape ({result.bucket.length}):[/green]",
        .table (bucketTable result.bucket)]
  let renames := result.suggestions.map fun suggestion =>
    Step.print
      s!"  Rename to [green]{suggestion.targetName}[/green] ({sourceNames suggestion})"
  parts ++ remark ++ bucket ++ renames

/-- The script of the `lookup` command. -/
def lookupScript (checker : Checker) (text : String) (json : Bool) : Script :=
  match declarationOf? checker.keyword text with
  | none => .ofSteps [.warn "[red]Error:[/red] No exported method declaration found"] 1
  | some declaration =>
    let result := lookup checker declaration
    .ofSteps (if json then [.echo result.toJson.pretty] else result.steps) 0

end NearMiss.Command
