import NearMiss.Command.Run

/-!
# The program

The program takes a picture of the files that a command line names, lets the command work on it, and
carries out what the command printed and wrote. Compressed data and the network are out of its
reach: an archive is refused, and a request gets no answer.
-/

namespace NearMiss.Main

/-- The written form of a place. -/
def written (place : Place) : String :=
  "/" ++ "/".intercalate place

/-- What a file with the given octets holds. Those that begin like compressed data, with a whole
header and more, are not read. -/
def contentOf (octets : List UInt8) : Content :=
  match octets with
  | 0x1F :: 0x8B :: 0x08 :: rest =>
    if Damage.headerRest ≤ rest.length then .damaged (.refused "compressed data are not supported")
    else .plain octets
  | _ => .plain octets

/-- The tree with what stands at a place, but nothing of what is below it. -/
def glance (tree : FileTree) (place : Place) : IO FileTree := do
  let location := (← IO.currentDir) / written place
  match ← location.readDir.toBaseIO with
  | .ok _ => return tree.ensureDirectory place
  | .error _ =>
    match ← (IO.FS.readBinFile (written place)).toBaseIO with
    | .ok octets => return tree.add place (.file (contentOf octets.toList))
    | .error _ => return tree

/-- The tree with what stands at a place and all that is below it. -/
partial def survey (tree : FileTree) (place : Place) : IO FileTree := do
  let location := (← IO.currentDir) / written place
  match ← location.readDir.toBaseIO with
  | .ok found =>
    found.foldlM (fun tree entry => survey tree (place ++ [entry.fileName]))
      (tree.ensureDirectory place)
  | .error _ => glance tree place

/-- The tree with all that a path leads to, and with what stands on the way. -/
def surveyPath (tree : FileTree) (path : Path) : IO FileTree := do
  let place := (tree.absolute path).names
  let tree ← (FileTree.waypoints place.dropLast).foldlM glance tree
  survey tree place

/-- The variables of the environment that hold settings. -/
def environment : IO Environment :=
  (Settings.textNames ++ [Settings.listName]).filterMapM fun name => do
    let variableName := Settings.variableName name
    return (← IO.getEnv variableName).map fun value => (variableName, value)

/-- The world as a command line needs to see it. -/
def world (words : List String) : IO Command.World := do
  let current := Path.ofString (← IO.currentDir).toString
  let tree ← (FileTree.waypoints current.names).foldlM glance ⟨[], current.names⟩
  let named :=
    match Command.Invocation.parse words with
    | .error _ => []
    | .ok invocation => invocation.paths.map Path.ofString
  let tree ← (Command.World.variableFile :: named).foldlM surveyPath tree
  let world : Command.World :=
    { files := tree, environment := ← environment
      network := fun _ => .failed "no network access" }
  match world.settings with
  | .ok { corpusPath := some path, .. } => return { world with files := ← surveyPath tree path }
  | _ => return world

/-- Writes down what has changed. -/
def save (before after : FileTree) : IO Unit := do
  for (place, node) in after.entries do
    if before.get? place != some node then
      match node with
      | .directory => IO.FS.createDirAll (written place)
      | .file content => IO.FS.writeBinFile (written place) ⟨content.octets.toArray⟩

end NearMiss.Main

/-- Runs the program. A command line that cannot be used has exit status 2. -/
def main (words : List String) : IO UInt32 := do
  let world ← NearMiss.Main.world words
  match NearMiss.Command.run world words with
  | .error error =>
    IO.eprintln error.message
    return 2
  | .ok outcome =>
    IO.print outcome.stdout
    IO.eprint outcome.stderr
    NearMiss.Main.save world.files outcome.files
    if let some crash := outcome.crash then IO.eprintln crash.message
    return outcome.status.toUInt32
