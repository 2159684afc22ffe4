import NearMiss.Suggestion

/-!
# Diagnostics

A suggestion placed on the method name it is about.
-/

namespace NearMiss

/-- A suggestion and its place in a source text. -/
structure Diagnostic where
  /-- The line, counted from zero. -/
  line : Nat
  /-- The offset of the method name in its line. -/
  start : Nat
  /-- The offset where the method name ends. -/
  stop : Nat
  /-- The name that the method has. -/
  methodName : String
  /-- The name that it should have. -/
  suggestion : Suggestion
  /-- What the user is told. -/
  message : String
  /-- The kind of diagnostic. -/
  code : String
  deriving DecidableEq, Repr, Inhabited

/-- The code of a proposed new name. -/
def Diagnostic.possibleRename : String := "possible_rename"

end NearMiss
