import NearMiss.Command.Script
import NearMiss.Release

/-!
# Building a corpus

The `build-corpus` command harvests interface methods and writes them to a corpus file. If there is
no harvest, nothing is written, and the command reports why or ends with the failure.
-/

namespace NearMiss.Command

/-- Where a harvest comes from. -/
inductive Origin where
  /-- The directory at a path. -/
  | directory (path : Path)
  /-- The archive at a path. -/
  | archive (path : Path)
  /-- The release of a version, or the one that is set. -/
  | release (version : Option String)
  deriving DecidableEq, Repr

/-- The steps that write a corpus file. -/
def save (output : Path) (corpus : Corpus) : List Step :=
  [.makeDirectories output.parent, .write output corpus.toOctets]

/-- The steps that report on a harvest. -/
def reportHarvest (output : Path) (harvest : Harvest) : List Step :=
  let counts : List Step :=
    [.print s!"[green]✓[/green] Corpus written to: {output.text}",
      .print s!"  Files scanned: {harvest.filesScanned}",
      .print s!"  Interfaces: {harvest.interfacesCount}",
      .print s!"  Methods: {harvest.methods.length}"]
  if harvest.skipped.isEmpty then counts
  else
    counts ++ .print s!"  [yellow]Files skipped: {harvest.skipped.length}[/yellow]" ::
      harvest.skipped.map fun skipped => .print s!"  [yellow]- {skipped.message}[/yellow]"

/-- The script that announces a harvest and then writes it, or says why there is none. -/
def harvestScript (announcement : String) (output : Path) :
    Except ReleaseError Harvest → Script
  | .error error =>
    if error.isReported then
      .ofSteps [.print announcement, .warn s!"[red]Error:[/red] {error.message}"] 1
    else ⟨[.print announcement], .error (.release error)⟩
  | .ok harvest =>
    .ofSteps (.print announcement :: save output harvest.methods ++ reportHarvest output harvest) 0

/-- The script of the `build-corpus` command. -/
def buildScript (settings : Settings) (tree : FileTree) (network : Request → Response)
    (origin : Origin) (output : Path) : Script :=
  match origin with
  | .directory path =>
    harvestScript s!"[blue]Scanning:[/blue] {path.text}" output
      (.ok (Harvest.ofDirectory settings tree path))
  | .archive path =>
    harvestScript s!"[blue]Reading archive:[/blue] {path.text}" output
      (Harvest.ofArchive settings tree path)
  | .release version =>
    match settings.request version with
    | .error error => .ofCrash (.template error)
    | .ok request =>
      harvestScript s!"[blue]Fetching Go sources:[/blue] {request.url}" output
        (Harvest.ofResponse settings request (network request))

end NearMiss.Command
