import NearMiss.Command.Build
import NearMiss.Command.Check
import NearMiss.Command.Invocation
import NearMiss.Command.Lookup
import NearMiss.Corpus.BuiltIn

/-!
# Running a command line

A command sees the files, the environment and the network, and nothing else decides what it does.
-/

namespace NearMiss.Command

/-- All that a command can see. -/
structure World where
  /-- The files. -/
  files : FileTree
  /-- The environment. -/
  environment : Environment := []
  /-- What comes of a request. -/
  network : Request → Response

namespace World

/-- Where the variable file is. -/
def variableFile : Path := Path.ofString ".env"

/-- What settings are read from. -/
def surroundings (world : World) : Settings.Surroundings :=
  ⟨world.environment, (world.files.read variableFile).toOption⟩

/-- The settings. -/
def settings (world : World) : Except Crash Settings :=
  match world.surroundings.settings with
  | .error failure => .error (.settings failure)
  | .ok settings => .ok settings

end World

/-- The corpus of the settings: the one in the file that is set, or the built-in one. -/
def corpusOf (files : FileTree) (settings : Settings) : Except Corpus.LoadError Corpus :=
  match settings.corpusPath with
  | none => .ok Corpus.builtIn
  | some path => Corpus.load files path

/-- The checker that compares with a corpus as the settings say. -/
def checkerOf (settings : Settings) (corpus : Corpus) : Checker :=
  ⟨Index.build corpus, settings.declarationKeyword, settings.minParams⟩

/-- The script of a corpus that cannot be loaded. -/
def corpusFailure (error : Corpus.LoadError) : Script :=
  match error.report? with
  | none => .ofCrash (.corpus error)
  | some report =>
    .ofSteps [.warn s!"[red]Error:[/red] Failed to load corpus: {report.summary}",
      .warn s!"  {report.details}"] 1

/-- The script of a command that needs a checker. A corpus that is given wins over the one that is
set. -/
def withChecker (world : World) (corpus : Option Path) (script : Checker → Script) : Script :=
  match world.settings with
  | .error crash => .ofCrash crash
  | .ok settings =>
    let settings := { settings with corpusPath := corpus.orElse fun _ => settings.corpusPath }
    match corpusOf world.files settings with
    | .error error => corpusFailure error
    | .ok corpus => script (checkerOf settings corpus)

/-- How the program is used. -/
def usage : List String :=
  ["Usage: near-miss [-v] COMMAND",
    "",
    "Commands:",
    "  check PATHS... [-c CORPUS] [--json] [--strict]",
    "  lookup SIGNATURE [-c CORPUS] [--json]",
    "  build-corpus [--version V] [--source-dir DIR] [--archive FILE] [-o OUTPUT]"]

/-- The script of an invocation. Paths that must lead somewhere are checked first. -/
def Invocation.script (world : World) : Invocation → Except UsageError Script
  | .help => .ok (.ofSteps (usage.map .echo) 0)
  | .check paths corpus json strict => do
    let paths ← paths.mapM (existing world.files)
    let corpus ← corpus.mapM (existingFile world.files)
    return withChecker world corpus fun checker =>
      checkScript checker world.files paths json strict
  | .lookup signature corpus json => do
    let corpus ← corpus.mapM (existingFile world.files)
    return withChecker world corpus fun checker => lookupScript checker signature json
  | .build version sourceDir archive output => do
    let sourceDir ← sourceDir.mapM (existingDirectory world.files)
    let archive ← archive.mapM (existingFile world.files)
    let build (origin : Origin) : Script :=
      match world.settings with
      | .error crash => .ofCrash crash
      | .ok settings =>
        buildScript settings world.files world.network origin (Path.ofString output)
    match sourceDir, archive with
    | some _, some _ =>
      return .ofSteps
        [.warn "[red]Error:[/red] Use either --source-dir or --archive, not both"] 1
    | some path, none => return build (.directory path)
    | none, some path => return build (.archive path)
    | none, none => return build (.release version)

/-- What a command line comes to. -/
def run (world : World) (words : List String) : Except UsageError Outcome := do
  let invocation ← Invocation.parse words
  let script ← invocation.script world
  return script.run world.files

end NearMiss.Command
