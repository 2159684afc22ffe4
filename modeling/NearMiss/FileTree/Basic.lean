import NearMiss.Archive
import NearMiss.Path
import NearMiss.Text.Quoted

/-!
# File trees

A tree of directories and files as it is seen from one of its directories. Places are given by the
names that lead to them from the top. A path leads to a place step by step, and every step starts
from a directory, double dots included.
-/

namespace NearMiss

/-- The names that lead from the top of a tree to a place in it. -/
abbrev Place := List String

/-- What a file holds, or the answer to a request. -/
inductive Content where
  /-- Octets that hold no compressed data. -/
  | plain (octets : List UInt8)
  /-- The members of a compressed archive that is read to its end, in order. -/
  | archive (members : List Member)
  /-- Compressed data in which the reading breaks off. -/
  | damaged (damage : Damage)
  deriving DecidableEq, Repr, Inhabited

/-- The octets of a file that is read as a whole. Of compressed data only the signature is given,
which is no text. -/
def Content.octets : Content → List UInt8
  | .plain octets => octets
  | .archive _ => [0x1F, 0x8B, 0x08]
  | .damaged _ => [0x1F, 0x8B, 0x08]

/-- What stands at a place. -/
inductive Node where
  /-- A directory. -/
  | directory
  /-- A file. -/
  | file (content : Content)
  deriving DecidableEq, Repr, Inhabited

/-- Why nothing can be done at a path. -/
inductive FileError.Cause where
  /-- There is nothing. -/
  | missing
  /-- There is something already. -/
  | occupied
  /-- A step starts from a file. -/
  | notDirectory
  /-- A directory stands where a file is meant. -/
  | isDirectory
  /-- A name, or the path as a whole, has too many octets. -/
  | tooLong
  /-- The path holds the character that ends texts in the file system. -/
  | nullCharacter
  deriving DecidableEq, Repr

/-- A failure to do something at a path. -/
structure FileError where
  /-- What is wrong. -/
  cause : FileError.Cause
  /-- The path as it was given. -/
  path : Path
  deriving DecidableEq, Repr

/-- The wording of what is wrong, with its number. -/
def FileError.Cause.message : FileError.Cause → String
  | .missing => "[Errno 2] No such file or directory"
  | .occupied => "[Errno 17] File exists"
  | .notDirectory => "[Errno 20] Not a directory"
  | .isDirectory => "[Errno 21] Is a directory"
  | .tooLong => "[Errno 36] File name too long"
  | .nullCharacter => "embedded null byte"

/-- Whether a failure comes from the file system. A path with a null character does not get as far
as that. -/
def FileError.Cause.isFromSystem : FileError.Cause → Bool
  | .nullCharacter => false
  | _ => true

/-- The wording of a failure. -/
def FileError.message (e : FileError) : String :=
  if e.cause.isFromSystem then s!"{e.cause.message}: {Text.quoted e.path.text}"
  else e.cause.message

/-- A tree of files. -/
structure FileTree where
  /-- What stands at each place; the top is a directory and is not listed. -/
  entries : List (Place × Node)
  /-- The directory that relative paths start from. -/
  current : Place
  deriving Repr

namespace FileTree

/-- What stands at a place. -/
def get? (tree : FileTree) (place : Place) : Option Node :=
  if place.isEmpty then some .directory else tree.entries.lookup place

/-- Gives the entry of a place its node; a new entry comes last. -/
def setEntry (place : Place) (node : Node) : List (Place × Node) → List (Place × Node)
  | [] => [(place, node)]
  | (p, n) :: later => if p = place then (p, node) :: later else (p, n) :: setEntry place node later

/-- The tree with the given node at a place. -/
def set (tree : FileTree) (place : Place) (node : Node) : FileTree :=
  { tree with entries := setEntry place node tree.entries }

/-- The places on the way from the top to a place, the place itself last and the top left out. -/
def waypoints : Place → List Place
  | [] => []
  | name :: later => [name] :: (waypoints later).map (name :: ·)

/-- The tree with a directory at a place, unless something is there. -/
def ensureDirectory (tree : FileTree) (place : Place) : FileTree :=
  if (tree.get? place).isSome then tree else tree.set place .directory

/-- The tree with the given node at a place, and with the directories that lead there. -/
def add (tree : FileTree) (place : Place) (node : Node) : FileTree :=
  let grown := (waypoints place.dropLast).foldl ensureDirectory tree
  match node with
  | .directory => grown.ensureDirectory place
  | .file _ => grown.set place node

/-! ## Finding -/

/-- The place that one step leads to. -/
def step (place : Place) (name : String) : Place :=
  if name = ".." then place.dropLast else place ++ [name]

/-- How many octets a name may have. -/
def maxName : Nat := 255

/-- How many octets a path may have. -/
def maxPath : Nat := 4095

/-- Refuses a path that no file system takes. -/
def checkPath (path : Path) : Except FileError.Cause Unit :=
  if path.text.toList.contains '\x00' then .error .nullCharacter
  else if maxPath < path.text.utf8ByteSize then .error .tooLong
  else .ok ()

/-- The place that names lead to. Every step starts from a directory; whether something is at the
end is left open. -/
def follow (tree : FileTree) : Place → List String → Except FileError.Cause Place
  | place, [] => .ok place
  | place, name :: later =>
    match tree.get? place with
    | none => .error .missing
    | some (.file _) => .error .notDirectory
    | some .directory =>
      if maxName < name.utf8ByteSize then .error .tooLong else tree.follow (step place name) later

/-- The place that a path starts from. -/
def start (tree : FileTree) (path : Path) : Place :=
  if path.root = "" then tree.current else []

/-- The place that a path leads to. -/
def placeOf (tree : FileTree) (path : Path) : Except FileError.Cause Place := do
  checkPath path
  tree.follow (tree.start path) path.names

/-- What a path leads to. -/
def find (tree : FileTree) (path : Path) : Except FileError.Cause Node :=
  match tree.placeOf path with
  | .error cause => .error cause
  | .ok place =>
    match tree.get? place with
    | none => .error .missing
    | some node => .ok node

/-- Whether a path leads to a file. -/
def isFile (tree : FileTree) (path : Path) : Bool :=
  match tree.find path with
  | .ok (.file _) => true
  | _ => false

/-- Whether a path leads to a directory. -/
def isDirectory (tree : FileTree) (path : Path) : Bool :=
  match tree.find path with
  | .ok .directory => true
  | _ => false

/-- What the file that a path leads to holds. -/
def content (tree : FileTree) (path : Path) : Except FileError Content :=
  match tree.find path with
  | .error cause => .error ⟨cause, path⟩
  | .ok .directory => .error ⟨.isDirectory, path⟩
  | .ok (.file content) => .ok content

/-- The octets of the file that a path leads to. -/
def read (tree : FileTree) (path : Path) : Except FileError (List UInt8) :=
  (tree.content path).map Content.octets

/-- The path from the top without double dots, each of which takes back the name before it. -/
def absolute (tree : FileTree) (path : Path) : Path :=
  ⟨if path.root = "" then "/" else path.root, path.names.foldl step (tree.start path)⟩

/-! ## Changing -/

/-- The tree with directories along names from a place. A file in the way is refused; the path is
for the report. -/
def makeDirectoriesFrom (path : Path) (tree : FileTree) :
    Place → List String → Except FileError FileTree
  | _, [] => .ok tree
  | place, name :: later =>
    let next := step place name
    match tree.get? next with
    | some .directory => makeDirectoriesFrom path tree next later
    | some (.file _) => .error ⟨if later.isEmpty then .occupied else .notDirectory, path⟩
    | none =>
      if maxName < name.utf8ByteSize then .error ⟨.tooLong, path⟩
      else makeDirectoriesFrom path (tree.set next .directory) next later

/-- The tree with a directory at the end of a path, and with the directories that lead there. -/
def makeDirectories (tree : FileTree) (path : Path) : Except FileError FileTree :=
  match checkPath path with
  | .error cause => .error ⟨cause, path⟩
  | .ok () => makeDirectoriesFrom path tree (tree.start path) path.names

/-- The tree with the given octets in the file at a path, which may be new. -/
def write (tree : FileTree) (path : Path) (octets : List UInt8) : Except FileError FileTree :=
  match tree.placeOf path with
  | .error cause => .error ⟨cause, path⟩
  | .ok place =>
    match tree.get? place with
    | some .directory => .error ⟨.isDirectory, path⟩
    | _ => .ok (tree.set place (.file (.plain octets)))

end FileTree

end NearMiss
