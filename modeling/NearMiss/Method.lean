import NearMiss.Param

/-!
# Methods

A declaration `Name(params) results` is read by paren depth alone: the name stands before the first
paren, the parameters inside that group, and the results after it, where their own outermost parens
do not count. Any text can be read; what is missing from it comes out empty.

The shape of a method is the text of its ordered types. Names and markers take no part in it.
-/

namespace NearMiss

open Text

/-- A method read from its declaration. -/
structure Method where
  /-- The declaration it was read from. -/
  signature : String
  /-- Its name. -/
  name : String
  /-- Its parameters, in order. -/
  params : List Param
  /-- Its results, in order. -/
  returns : List Param
  deriving DecidableEq, Repr, Inhabited

namespace Method

/-- Cuts a text at the paren that brings the depth to one: what stands before it and after it. -/
def cutOpen? (level : Int) : List Char → Option (List Char × List Char)
  | [] => none
  | c :: rest =>
    if c = '(' ∧ level = 0 then some ([], rest)
    else (cutOpen? (level + turn c) rest).map fun (before, after) => (c :: before, after)

/-- Cuts a text at the paren that brings the depth to zero: what stands before it and after it. -/
def cutClose? (level : Int) : List Char → Option (List Char × List Char)
  | [] => none
  | c :: rest =>
    if c = ')' ∧ level = 1 then some ([], rest)
    else (cutClose? (level + turn c) rest).map fun (before, after) => (c :: before, after)

/-- The text without the parens that lead from depth zero to one and back. -/
def dropOuterParens (level : Int) : List Char → List Char
  | [] => []
  | c :: rest =>
    if (c = '(' ∧ level = 0) ∨ (c = ')' ∧ level = 1) then dropOuterParens (level + turn c) rest
    else c :: dropOuterParens (level + turn c) rest

/-- Reads a declaration. Without an opening paren nothing is found; with a group that is never
closed only the name is. -/
def parse (signature : String) : Method :=
  match cutOpen? 0 signature.toList with
  | none => ⟨signature, "", [], []⟩
  | some (name, afterName) =>
    let name := String.ofList (trim name)
    match cutClose? 1 afterName with
    | none => ⟨signature, name, [], []⟩
    | some (params, afterParams) =>
      { signature := signature
        name := name
        params := Param.readList true params
        returns := Param.readList false (dropOuterParens 0 afterParams) }

/-- The types of a list of parameters, joined by a comma and a blank. -/
def typeList (params : List Param) : String :=
  ", ".intercalate (params.map (·.type))

/-- The key of a method's shape, such as `([]byte) (int, error)`. -/
def key (m : Method) : String :=
  "(" ++ typeList m.params ++ ") (" ++ typeList m.returns ++ ")"

/-- Whether a method is worth comparing: it has a name, at least one parameter, and at least as many
as asked for. -/
def isCandidate (m : Method) (minParams : Int) : Bool :=
  m.name != "" && max minParams 1 ≤ m.params.length

end Method

/-- A method that a known interface asks for. -/
structure InterfaceMethod extends Method where
  /-- The name of the interface. -/
  interface : String
  /-- The path of the package that declares the interface. -/
  package : String
  deriving DecidableEq, Repr, Inhabited

namespace InterfaceMethod

/-- The method of an interface that is declared as the given text. -/
def ofSignature (package interface signature : String) : InterfaceMethod :=
  { Method.parse signature with interface, package }

end InterfaceMethod

end NearMiss
