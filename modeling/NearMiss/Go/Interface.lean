import NearMiss.Declaration
import NearMiss.Go.Statement
import NearMiss.Go.TypeParams
import NearMiss.Method
import NearMiss.Text.Utf8

/-!
# Interface declarations

A `type` declaration at the top level of a source file declares an interface when the type it gives
is literally one: not an alias, not in parens, not part of another type. The methods of an exported
interface are read from their exact source text, and those worth comparing are kept.
-/

namespace NearMiss.Go

open Text

/-- A declared interface, its parts still as octets. -/
structure Interface where
  /-- The declared name. -/
  name : List UInt8
  /-- The text of each method, in order. -/
  methods : List (List UInt8)
  deriving DecidableEq, Repr

namespace Interface

/-- What stands behind the type parameters, if there are any. -/
def skipTypeParams (stretch : List Lexeme) : List Lexeme :=
  match next? stretch with
  | some (x, rest) =>
    if x.isMark '[' then
      let (inside, behind) := enclosed rest
      if listsTypeParams inside then behind else stretch
    else stretch
  | none => stretch

/-- The text of an element of an interface, if it is a method: a name and then a paren. -/
def methodText? (element : List Lexeme) : Option (List UInt8) :=
  let element := trimTrivia element
  match next? element with
  | none => none
  | some (name, rest) =>
    match next? rest with
    | none => none
    | some (paren, _) =>
      if name.isName && paren.isMark '(' then some (octetsOf element) else none

/-- The interface that a type specification declares. -/
def ofSpec? (spec : List Lexeme) : Option Interface := do
  let (name, rest) ← next? spec
  let (keyword, rest) ← next? (skipTypeParams rest)
  let (brace, rest) ← next? rest
  if name.isName && keyword.isWord "interface" && brace.isMark '{' then
    some ⟨name.octets, (statements (enclosed rest).1).filterMap methodText?⟩
  else none

/-- The type specifications of a statement: none unless it is a `type` declaration, and several if
it is a group. -/
def specsOf (statement : List Lexeme) : List (List Lexeme) :=
  match next? statement with
  | none => []
  | some (keyword, rest) =>
    if keyword.isWord "type" then
      match next? rest with
      | none => []
      | some (x, inside) => if x.isMark '(' then statements (enclosed inside).1 else [rest]
    else []

/-- The source without the mark of its encoding that may stand in front. -/
def dropByteOrderMark : List UInt8 → List UInt8
  | 0xEF :: 0xBB :: 0xBF :: rest => rest
  | source => source

/-- The interfaces that a source file declares at its top level, in order. -/
def ofSource (source : List UInt8) : List Interface :=
  ((statements (lexemes (dropByteOrderMark source))).flatMap specsOf).filterMap ofSpec?

/-- The method of an interface in a package that has the given text, unless it is not worth
comparing. -/
def readMethod (package interface : String) (minParams : Int) (octets : List UInt8) :
    Except Utf8Error (Option InterfaceMethod) :=
  match decode octets with
  | .error error => .error error
  | .ok text =>
    let m := InterfaceMethod.ofSignature package interface (String.ofList (trim text))
    .ok (if m.isCandidate minParams then some m else none)

/-- Whether a declared name begins with a capital. -/
def isExportedName (name : List Char) : Bool :=
  name.head?.any Declaration.isExported

/-- The methods of an interface that are worth comparing: none if it is not exported. -/
def readMethods (package : String) (minParams : Int) (declared : Interface) :
    Except Utf8Error (List InterfaceMethod) :=
  match decode declared.name with
  | .error error => .error error
  | .ok name =>
    if isExportedName name then
      (declared.methods.mapM (readMethod package (String.ofList name) minParams)).map
        (·.filterMap id)
    else .ok []

/-- How interfaces are found in the octets of a source file. -/
abbrev Finder := List UInt8 → List Interface

/-- The methods of all exported interfaces of a source file that are worth comparing. Octets that
are no text make the whole file unreadable, but only where they stand in a name or a method. -/
def extract (package : String) (minParams : Int) (source : List UInt8)
    (find : Finder := ofSource) : Except Utf8Error (List InterfaceMethod) :=
  ((find source).mapM (readMethods package minParams)).map List.flatten

end Interface

end NearMiss.Go
