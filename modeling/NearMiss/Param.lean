import NearMiss.Text.Blank
import NearMiss.Text.Depth

/-!
# Parameters

A group such as `a, b string, opts ...Option` is cut at its outermost commas and each piece is read
as a name with a type or as a bare type. A parameter may leave its type to the one after it, so the
pieces are resolved from the last to the first.
-/

namespace NearMiss

open Text

/-- One parameter or result of a method. -/
structure Param where
  /-- Its name; a bare type has none. -/
  name : Option String
  /-- Its type without pointer and variadic markers. -/
  type : String
  /-- Whether `...` stood before the type. -/
  isVariadic : Bool
  /-- Whether `*` stood before the type. -/
  isPointer : Bool
  deriving DecidableEq, Repr, Inhabited

namespace Param

/-- The text up to the first comma at depth zero, and the segments after it, where `level` is the
depth at which the text begins. -/
def segments (level : Int) : List Char → List Char × List (List Char)
  | [] => ([], [])
  | c :: rest =>
    if c = ',' ∧ level = 0 then
      let (first, later) := segments level rest
      ([], first :: later)
    else
      let (first, later) := segments (level + turn c) rest
      (c :: first, later)

/-- The trimmed texts between the commas at depth zero. A last one that is blank does not count, so
that a group may end in a comma. -/
def pieces (text : List Char) : List (List Char) :=
  let (first, later) := segments 0 text
  let all := (first :: later).map trim
  if all.getLast? = some [] then all.dropLast else all

/-- The name and the type as written of one piece, where `next` is the written type of the
parameter after it. A piece of one word takes the type after it if types are shared, and is
otherwise itself the type. -/
def resolve (shareTypes : Bool) (next piece : List Char) : Option (List Char) × List Char :=
  let (word, written) := splitWord piece
  let type := if written.isEmpty && shareTypes then next else written
  if type.isEmpty then (none, word) else (some word, type)

/-- The parameter with the given name and type as written: every leading star is dropped, then one
variadic marker. -/
def ofWritten (name : Option (List Char)) (written : List Char) : Param :=
  let bare := written.dropWhile (· == '*')
  let isVariadic := "...".toList.isPrefixOf bare
  { name := name.map String.ofList
    type := String.ofList (if isVariadic then bare.drop 3 else bare)
    isVariadic := isVariadic
    isPointer := written.head? == some '*' }

/-- The parameters of a list of pieces and the written type of the first of them. -/
def resolveAll (shareTypes : Bool) : List (List Char) → List Param × List Char
  | [] => ([], [])
  | piece :: later =>
    let (params, next) := resolveAll shareTypes later
    let (name, written) := resolve shareTypes next piece
    (ofWritten name written :: params, written)

/-- The parameters between the parens of a group, in order. In a parameter list consecutive names
share the type of the last of them; in a result list they do not. -/
def readList (shareTypes : Bool) (text : List Char) : List Param :=
  (resolveAll shareTypes (pieces text)).1

end Param

end NearMiss
