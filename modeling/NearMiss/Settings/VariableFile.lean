import NearMiss.Settings.Environment
import NearMiss.Text.Blank
import NearMiss.Text.Lines

/-!
# Variable files

A variable file holds assignments such as `NAME=value` or `export NAME="value"`, one to a line; only
a value in quotes may go on over several lines. Blank lines and comments are passed over, and so is
the rest of a line from where it cannot be read. A value may refer to variables that were assigned
before, and to those of the environment.
-/

namespace NearMiss

/-- Variables with their values, in the order in which they were first named. A name that stands
without a value has none. -/
abbrev Variables := List (String × Option String)

namespace VariableFile

open Text

/-! ## Reading assignments -/

-- What is read at the front of a text comes with the text after it. A failure tells the text from
-- which on nothing could be read.

/-- Whether a character is a blank that does not end a line. -/
def isInnerBlank (c : Char) : Bool :=
  isBlank c && c != '\n'

/-- The text without the leading blanks of its line. -/
def skipBlanks (s : List Char) : List Char :=
  s.dropWhile isInnerBlank

/-- The character that an escape in double quotes stands for. -/
def doubleEscape? : Char → Option Char
  | '\\' => some '\\'
  | '\'' => some '\''
  | '"' => some '"'
  | 'a' => some '\x07'
  | 'b' => some '\x08'
  | 'f' => some '\x0c'
  | 'n' => some '\n'
  | 'r' => some '\r'
  | 't' => some '\t'
  | 'v' => some '\x0b'
  | _ => none

/-- The character that an escape in single quotes stands for. -/
def singleEscape? : Char → Option Char
  | '\\' => some '\\'
  | '\'' => some '\''
  | _ => none

/-- The text up to the closing quote and the text after it. A backslash that begins no escape stands
for itself. -/
def quotedValue? (mark : Char) (escape? : Char → Option Char) :
    List Char → Option (List Char × List Char)
  | [] => none
  | '\\' :: c :: rest =>
    (quotedValue? mark escape? rest).map fun (value, rest) =>
      match escape? c with
      | some meant => (meant :: value, rest)
      | none => ('\\' :: c :: value, rest)
  | c :: rest =>
    if c = mark then some ([], rest)
    else (quotedValue? mark escape? rest).map fun (value, rest) => (c :: value, rest)

/-- A value without quotes: it ends with its line, or before a hash that follows a blank. -/
def bareValue (afterBlank : Bool) : List Char → List Char
  | [] => []
  | c :: rest =>
    if c = '#' && afterBlank then [] else c :: bareValue (isBlank c) rest

/-- The value after an equals sign. -/
def value (s : List Char) : Except (List Char) (List Char × List Char) :=
  let start := skipBlanks s
  let quoted (mark : Char) (escape? : Char → Option Char) (rest : List Char) :=
    match quotedValue? mark escape? rest with
    | some found => Except.ok found
    | none => .error start
  match start with
  | '\'' :: rest => quoted '\'' singleEscape? rest
  | '"' :: rest => quoted '"' doubleEscape? rest
  | _ => .ok (trim (bareValue false (s.takeWhile (· != '\n'))), s.dropWhile (· != '\n'))

/-- The text after the word `export`, if it stands before a name. -/
def afterExport (s : List Char) : List Char :=
  match s with
  | 'e' :: 'x' :: 'p' :: 'o' :: 'r' :: 't' :: c :: rest =>
    if isInnerBlank c then skipBlanks rest else s
  | _ => s

/-- Whether a character may stand in a name without quotes. -/
def isNameChar (c : Char) : Bool :=
  c != '=' && c != '#' && !isBlank c

/-- The name of a variable, in single quotes or bare. A comment has none. -/
def name (s : List Char) : Except (List Char) (Option (List Char) × List Char) :=
  match s with
  | '#' :: _ => .ok (none, s)
  | '\'' :: rest =>
    let found := rest.takeWhile (· != '\'')
    match rest.dropWhile (· != '\'') with
    | _ :: later => if found.isEmpty then .error s else .ok (some found, later)
    | [] => .error s
  | _ =>
    let found := s.takeWhile isNameChar
    if found.isEmpty then .error s else .ok (some found, s.dropWhile isNameChar)

/-- The text without a comment at its front. -/
def skipComment (s : List Char) : List Char :=
  match skipBlanks s with
  | '#' :: rest => rest.dropWhile (· != '\n')
  | _ => s

/-- The text after the end of a line, which must come next. -/
def lineEnd (s : List Char) : Except (List Char) (List Char) :=
  match skipBlanks s with
  | [] => .ok []
  | '\n' :: rest => .ok rest
  | _ => .error s

/-- The assignment at the front of a text. A name may stand without a value. -/
def assignment (s : List Char) :
    Except (List Char) (Option (String × Option String) × List Char) := do
  let (found, s) ← name (afterExport s)
  let (meant, s) ←
    match skipBlanks s with
    | '=' :: rest => do
      let (meant, s) ← value rest
      pure (some (String.ofList meant), s)
    | s => pure (none, s)
  let s ← lineEnd (skipComment s)
  return (found.map fun found => (String.ofList found, meant), s)

/-- The text after its first line. -/
def nextLine (s : List Char) : List Char :=
  (s.dropWhile (· != '\n')).drop 1

/-- The assignments of a text, at most as many as `fuel` allows. -/
def assignmentsUpTo : Nat → List Char → Variables
  | 0, _ => []
  | fuel + 1, s =>
    match trimLeft s with
    | [] => []
    | s =>
      match assignment s with
      | .error rest => assignmentsUpTo fuel (nextLine rest)
      | .ok (found, rest) => found.toList ++ assignmentsUpTo fuel rest

/-- The assignments of a text. Each takes up at least one character. -/
def assignments (s : List Char) : Variables :=
  assignmentsUpTo s.length s

/-! ## References to variables -/

/-- A reference to a variable, with what stands for it if there is no such variable. -/
structure Reference where
  /-- The name of the variable. -/
  name : String
  /-- What stands for it otherwise. -/
  fallback : String
  deriving DecidableEq, Repr

/-- The reference after a dollar sign and an opening brace, and the text after it. -/
def reference? (s : List Char) : Option (Reference × List Char) :=
  let name := String.ofList (s.takeWhile fun c => c != '}' && c != ':')
  match s.dropWhile fun c => c != '}' && c != ':' with
  | '}' :: rest => some (⟨name, ""⟩, rest)
  | ':' :: '-' :: rest =>
    match rest.dropWhile (· != '}') with
    | _ :: later => some (⟨name, String.ofList (rest.takeWhile (· != '}'))⟩, later)
    | [] => none
  | _ => none

/-- The text that a reference stands for. A variable without a value stands for nothing. -/
def Reference.resolve (env : Environment) (known : Variables) (ref : Reference) : String :=
  match known.lookup ref.name with
  | some value => value.getD ""
  | none => (env.lookup ref.name).getD ref.fallback

/-- A text with its references resolved, at most as many characters as `fuel` allows. -/
def resolveUpTo (env : Environment) (known : Variables) : Nat → List Char → List Char
  | 0, s => s
  | fuel + 1, s =>
    match s with
    | [] => []
    | '$' :: '{' :: rest =>
      match reference? rest with
      | some (ref, rest) => (ref.resolve env known).toList ++ resolveUpTo env known fuel rest
      | none => '$' :: resolveUpTo env known fuel ('{' :: rest)
    | c :: rest => c :: resolveUpTo env known fuel rest

/-- A text with its references resolved: variables of the file first, then the environment. -/
def resolve (env : Environment) (known : Variables) (s : String) : String :=
  String.ofList (resolveUpTo env known s.toList.length s.toList)

/-! ## The variables of a file -/

/-- The text of a file without the mark that tells its encoding. -/
def withoutMark : List Char → List Char
  | '\ufeff' :: rest => rest
  | s => s

/-- The variables of a file, read within an environment. -/
def parse (env : Environment) (text : List Char) : Variables :=
  (assignments (normalizeNewlines (withoutMark text))).foldl (fun known (name, value) =>
    assign name (value.map (resolve env known)) known) []

end VariableFile

end NearMiss
