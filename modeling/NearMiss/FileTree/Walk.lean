import NearMiss.FileTree.Basic

/-!
# Walks through a file tree

A walk hands out everything below a directory, at any depth and in the order of the places: names
are compared one after the other by their code points.
-/

namespace NearMiss.FileTree

/-- Whether one place does not come after another. -/
def inOrder : Place → Place → Bool
  | [], _ => true
  | _ :: _, [] => false
  | a :: as, b :: bs => if a = b then inOrder as bs else decide (a < b)

/-- The names that lead from one place to another below it. -/
def below? : Place → Place → Option (List String)
  | [], names => some names
  | _ :: _, [] => none
  | a :: as, b :: bs => if a = b then below? as bs else none

/-- Everything below a place, with the names that lead there, in order. -/
def walk (tree : FileTree) (place : Place) : List (List String × Node) :=
  let found := tree.entries.filterMap fun (p, node) =>
    match below? place p with
    | none => none
    | some names => if names.isEmpty then none else some (names, node)
  found.mergeSort fun a b => inOrder a.1 b.1

/-- Whether a name is that of a source file. -/
def isSourceName (name : String) : Bool :=
  Text.endsWith name ".go"

/-- Whether a name is that of a source file with tests. -/
def isTestName (name : String) : Bool :=
  Text.endsWith name "_test.go"

/-- Everything below the directory at a path that has the name of a source file, directories
included, in order. There is nothing below what is no directory. -/
def sources (tree : FileTree) (path : Path) : List (List String × Node) :=
  match tree.placeOf path with
  | .error _ => []
  | .ok place =>
    match tree.get? place with
    | some .directory => (tree.walk place).filter fun (names, _) => isSourceName (names.getLastD "")
    | _ => []

end NearMiss.FileTree
