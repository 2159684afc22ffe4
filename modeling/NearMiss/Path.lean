import NearMiss.Text.Split

/-!
# Paths

A path is a root and the names below it. Empty names and single dots mean nothing and are left out;
double dots stay, because what they lead to depends on the files.
-/

namespace NearMiss

/-- A path of names, relative if its root is empty. -/
structure Path where
  /-- The slashes it begins with: none, one, or exactly two. -/
  root : String
  /-- The names, none of them empty or a single dot. -/
  names : List String
  deriving DecidableEq, Repr, Inhabited

namespace Path

/-- The root of a path text: two leading slashes are kept, three or more count as one. -/
def rootOf (s : List Char) : String :=
  match (s.takeWhile (· == '/')).length with
  | 0 => ""
  | 2 => "//"
  | _ => "/"

/-- The names in a path text. -/
def namesOf (s : String) : List String :=
  (Text.splitString '/' s).filter fun name => name != "" && name != "."

/-- The path that a text spells. -/
def ofString (s : String) : Path :=
  ⟨rootOf s.toList, namesOf s⟩

/-- The text of a path. The path without root and names is a single dot. -/
def text (p : Path) : String :=
  if p.root == "" && p.names.isEmpty then "." else p.root ++ "/".intercalate p.names

/-- The path of something inside a directory. -/
def child (p : Path) (name : String) : Path :=
  { p with names := p.names ++ [name] }

/-- The path that leads on from a directory along names. -/
def descend (p : Path) (names : List String) : Path :=
  { p with names := p.names ++ names }

/-- The path of the directory that holds what the path leads to. -/
def parent (p : Path) : Path :=
  { p with names := p.names.dropLast }

end Path

end NearMiss
