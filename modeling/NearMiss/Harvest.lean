import NearMiss.FileTree.Walk
import NearMiss.Go.Interface
import NearMiss.Settings.Basic
import NearMiss.Suggestion

/-!
# Harvests

Interface methods are harvested from source files. Which files are read is decided by their places
below the source directory alone, so a directory and an archive of it give the same harvest. A file
that cannot be read costs itself and nothing else.

Wherever source files are read, the way in which interfaces are found in them can be given.
-/

namespace NearMiss

/-- A source file that may be harvested. -/
structure SourceFile where
  /-- The name under which it is reported. -/
  label : String
  /-- The names that lead to it from the source directory. -/
  names : List String
  /-- What it holds, or why it cannot be read. -/
  octets : Except FileError (List UInt8)

/-- Why a source file is passed over. -/
inductive ScanError where
  /-- It cannot be read. -/
  | unreadable (error : FileError)
  /-- A name or a method in it is no text. -/
  | undecodable (error : Text.Utf8Error)
  deriving DecidableEq, Repr

/-- The wording of the reason. -/
def ScanError.message : ScanError → String
  | .unreadable error => error.message
  | .undecodable error => error.message

/-- A source file that was passed over. -/
structure Skipped where
  /-- The name under which it is reported. -/
  label : String
  /-- The reason. -/
  error : ScanError
  deriving DecidableEq, Repr

/-- The wording of the report. -/
def Skipped.message (s : Skipped) : String :=
  s!"{s.label}: {s.error.message}"

namespace SourceFile

/-- Whether a source file is harvested: no name on the way to it is excluded, and it holds neither
tests nor package documentation alone. -/
def isAccepted (excluded names : List String) : Bool :=
  match names.getLast? with
  | none => false
  | some name =>
    !names.any excluded.contains && FileTree.isSourceName name && name != "doc.go" &&
      !FileTree.isTestName name

/-- The path of the package that a source file belongs to. -/
def package (file : SourceFile) : String :=
  "/".intercalate file.names.dropLast

/-- The methods of a source file, or why it is passed over. -/
def scan (minParams : Nat) (file : SourceFile)
    (find : Go.Interface.Finder := Go.Interface.ofSource) :
    Except Skipped (List InterfaceMethod) :=
  match file.octets with
  | .error error => .error ⟨file.label, .unreadable error⟩
  | .ok octets =>
    match Go.Interface.extract file.package minParams octets find with
    | .error error => .error ⟨file.label, .undecodable error⟩
    | .ok methods => .ok methods

/-- The directory that the source files of the directory at a path are taken from: its `src`
directory if it has one. -/
def rootOf (tree : FileTree) (path : Path) : Path :=
  if tree.isDirectory (path.child "src") then path.child "src" else path

/-- The source file that was found below a directory. -/
def ofFound (root : Path) (found : List String × Node) : SourceFile where
  label := (root.descend found.1).text
  names := found.1
  octets :=
    match found.2 with
    | .directory => .error ⟨.isDirectory, root.descend found.1⟩
    | .file content => .ok content.octets

/-- The source files below the directory at a path. -/
def ofDirectory (tree : FileTree) (path : Path) : List SourceFile :=
  (tree.sources (rootOf tree path)).map (ofFound (rootOf tree path))

/-- The source file that a member of an archive is. It lies in the `src` directory of the one
directory that was packed. -/
def ofMember? (m : Member) : Option SourceFile :=
  if m.isRegular then
    match (Text.splitString '/' m.name).tail with
    | "src" :: name :: later => some ⟨m.name, name :: later, .ok m.octets⟩
    | _ => none
  else none

end SourceFile

/-- What a harvest brings in. -/
structure Harvest where
  /-- The methods, in the order of the files. -/
  methods : List InterfaceMethod
  /-- How many files were read. -/
  filesScanned : Nat
  /-- The files that were passed over. -/
  skipped : List Skipped
  deriving DecidableEq, Repr

namespace Harvest

/-- The harvest of no files. -/
def empty : Harvest := ⟨[], 0, []⟩

/-- The harvest after one more source file. Its methods come last, or it is passed over; a file that
is not accepted changes nothing. -/
def gather (settings : Settings) (harvest : Harvest) (file : SourceFile)
    (find : Go.Interface.Finder := Go.Interface.ofSource) : Harvest :=
  if SourceFile.isAccepted settings.excludedDirs file.names then
    match file.scan settings.minParams find with
    | .error skipped => { harvest with skipped := harvest.skipped ++ [skipped] }
    | .ok methods =>
      { harvest with
        methods := harvest.methods ++ methods
        filesScanned := harvest.filesScanned + 1 }
  else harvest

/-- The harvest of source files, one after the other. -/
def ofFiles (settings : Settings) (files : List SourceFile)
    (find : Go.Interface.Finder := Go.Interface.ofSource) : Harvest :=
  files.foldl (gather settings · · find) empty

/-- How many interfaces contributed methods. -/
def interfacesCount (harvest : Harvest) : Nat :=
  (distinct (harvest.methods.map InterfaceMethod.source)).length

/-- The harvest of a directory. -/
def ofDirectory (settings : Settings) (tree : FileTree) (path : Path)
    (find : Go.Interface.Finder := Go.Interface.ofSource) : Harvest :=
  ofFiles settings (SourceFile.ofDirectory tree path) find

/-- The harvest of the members of an archive. -/
def ofMembers (settings : Settings) (members : List Member)
    (find : Go.Interface.Finder := Go.Interface.ofSource) : Harvest :=
  ofFiles settings (members.filterMap SourceFile.ofMember?) find

end Harvest

end NearMiss
