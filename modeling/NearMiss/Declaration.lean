import NearMiss.Text.Alphanumeric
import NearMiss.Text.Blank
import NearMiss.Text.Depth

/-!
# The declaration on a source line

A method line reads `func (receiver) Name(params) results` and usually ends in an opening brace.
The declaration is what stands between: it begins at the first exported letter outside parens, so
that the receiver is passed over, and ends before the brace.
-/

namespace NearMiss

open Text

/-- A declaration found on a line. -/
structure Declaration where
  /-- The offset of its first character in the line. -/
  offset : Nat
  /-- `Name(params) results`, without blanks at its ends. -/
  text : String
  deriving DecidableEq, Repr

namespace Declaration

/-- The letters that make an identifier exported when it begins with one of them. -/
def isExported (c : Char) : Bool :=
  'A' ≤ c && c ≤ 'Z'

/-- Cuts a line before its first exported letter at depth zero or below, where `level` is the depth
at which the line begins. -/
def cut? (level : Int) : List Char → Option (List Char × List Char)
  | [] => none
  | c :: rest =>
    if level ≤ 0 && isExported c then some ([], c :: rest)
    else (cut? (level + turn c) rest).map fun (before, after) => (c :: before, after)

/-- The text without its trailing blanks and one brace that opens a body there. -/
def dropBrace (s : List Char) : List Char :=
  let kept := trimRight s
  match kept.getLast? with
  | some '{' => trimRight kept.dropLast
  | _ => kept

/-- The declaration of a line, if it has one. -/
def locate? (line : String) : Option Declaration :=
  (cut? 0 line.toList).map fun (before, after) =>
    ⟨before.length, String.ofList (dropBrace after)⟩

/-- Whether a character may continue a word, so that a keyword before it is only part of one. -/
def continuesWord (c : Char) : Bool :=
  isAlphanumeric c || c == '_'

/-- Whether a line begins, after blanks, with the keyword as a word of its own. -/
def startsWithKeyword (line keyword : String) : Bool :=
  let text := trim line.toList
  keyword.toList.isPrefixOf text &&
    match text.drop keyword.length with
    | [] => true
    | c :: _ => !continuesWord c

end Declaration

end NearMiss
