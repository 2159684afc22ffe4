import NearMiss.Declaration
import NearMiss.Diagnostic
import NearMiss.Text.Lines
import NearMiss.Text.Utf8

/-!
# The checker

Source text is checked line by line. A line that begins with the declaration keyword and declares a
method worth comparing gives one diagnostic for each suggestion about that method, placed on its
name.
-/

namespace NearMiss

/-- A checker: the index it compares with and the rules for what it compares. -/
structure Checker where
  /-- The known shapes. -/
  index : Index
  /-- The keyword that begins a declaration. -/
  keyword : String
  /-- The least number of parameters of a method that is compared. -/
  minParams : Nat

namespace Checker

open Text

/-- Why source cannot be checked. -/
inductive Error where
  /-- A diagnostic would stand on a line with a negative number. -/
  | negativeLine
  /-- A suggestion names no interface. -/
  | noSources
  /-- A file is no UTF-8 text. -/
  | undecodable (error : Utf8Error)
  deriving DecidableEq, Repr

/-- The wording of the failure. -/
def Error.message : Error → String
  | .negativeLine => "line: Input should be greater than or equal to 0"
  | .noSources => "list index out of range"
  | .undecodable error => error.message

/-- The declared method of a line that is worth comparing, with the place of its declaration. -/
def candidate? (checker : Checker) (line : String) : Option (Declaration × Method) :=
  if Declaration.startsWithKeyword line checker.keyword then
    match Declaration.locate? line with
    | none => none
    | some found =>
      let m := Method.parse found.text
      if m.isCandidate checker.minParams then some (found, m) else none
  else none

/-- Places a suggestion about a method on a line. -/
def place (number : Int) (found : Declaration) (m : Method) (suggestion : Suggestion) :
    Except Error Diagnostic :=
  match suggestion.message? with
  | none => .error .noSources
  | some message =>
    if number < 0 then .error .negativeLine
    else .ok {
      line := number.toNat
      start := found.offset
      stop := found.offset + m.name.length
      methodName := m.name
      suggestion := suggestion
      message := message
      code := Diagnostic.possibleRename }

/-- The diagnostics of one line, which has the given number. -/
def line (checker : Checker) (text : String) (number : Int) : Except Error (List Diagnostic) :=
  match checker.candidate? text with
  | none => .ok []
  | some (found, m) => (Suggestion.forMethod checker.index m).mapM (place number found m)

/-- The diagnostics of lines, the first of which has the given number. -/
def linesFrom (checker : Checker) (number : Nat) :
    List (List Char) → Except Error (List Diagnostic)
  | [] => .ok []
  | text :: later => do
    let here ← checker.line (String.ofList text) number
    let further ← checker.linesFrom (number + 1) later
    return here ++ further

/-- The diagnostics of a source text. -/
def source (checker : Checker) (text : String) : Except Error (List Diagnostic) :=
  checker.linesFrom 0 (Text.lines text.toList)

/-- The diagnostics of the octets of a source file. Line ends are normalised first. -/
def octets (checker : Checker) (content : List UInt8) : Except Error (List Diagnostic) :=
  match Text.decode content with
  | .error error => .error (.undecodable error)
  | .ok chars => checker.source (String.ofList (normalizeNewlines chars))

end Checker

end NearMiss
