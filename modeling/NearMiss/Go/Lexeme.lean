/-!
# Lexemes of Go source

Source octets fall into blanks, line ends, comments, words, literals and marks. Every octet belongs
to exactly one lexeme, so the source can be put together again from its lexemes and any stretch of
them has its exact text. Octets outside ASCII count as letters: whether they are text is decided
only for the stretches that are used.
-/

namespace NearMiss.Go

/-- The kinds of lexemes. -/
inductive Kind where
  /-- Spaces, tabs and the like inside a line. -/
  | blank
  /-- The end of a line. -/
  | newline
  /-- A comment of either form; a line comment stops before the line end. -/
  | comment
  /-- An identifier, a keyword or a number. -/
  | word
  /-- A string or a character. -/
  | literal
  /-- Any other single octet. -/
  | mark
  deriving DecidableEq, Repr

/-- A stretch of source of one kind. -/
structure Lexeme where
  /-- What it is. -/
  kind : Kind
  /-- Its exact octets. -/
  octets : List UInt8
  deriving DecidableEq, Repr

/-- What has been read of a lexeme, as far as it decides which octets may follow. -/
inductive Mode where
  /-- Inside blanks. -/
  | blank
  /-- Inside a word that is no number. -/
  | word
  /-- Inside a number, which may hold points. -/
  | number
  /-- After a slash that may begin a comment. -/
  | slash
  /-- Inside a comment that ends with its line. -/
  | lineComment
  /-- Inside a bracketed comment; `star` tells whether the last octet was a star. -/
  | blockComment (star : Bool)
  /-- Inside a literal that ends at the given quote. -/
  | quoted (quote : UInt8)
  /-- After a backslash inside such a literal. -/
  | escape (quote : UInt8)
  /-- At the end of a lexeme that is complete. -/
  | complete (kind : Kind)
  deriving DecidableEq, Repr

/-- The octet of an ASCII character. -/
def octet (c : Char) : UInt8 :=
  c.toNat.toUInt8

/-- The octets that separate lexemes inside a line. -/
def isBlankOctet (b : UInt8) : Bool :=
  b == octet ' ' || b == octet '\t' || b == octet '\r' || b == 0x0B || b == 0x0C

/-- The octets of decimal digits. -/
def isDigitOctet (b : UInt8) : Bool :=
  octet '0' ≤ b && b ≤ octet '9'

/-- The octets that words are made of. -/
def isWordOctet (b : UInt8) : Bool :=
  (octet 'a' ≤ b && b ≤ octet 'z') || (octet 'A' ≤ b && b ≤ octet 'Z') || isDigitOctet b ||
    b == octet '_' || 0x80 ≤ b

/-- The quote of a raw string, inside which a backslash means itself. -/
def rawQuote : UInt8 :=
  0x60

/-- The mode after the first octet of a lexeme. -/
def Mode.begin (b : UInt8) : Mode :=
  if isBlankOctet b then .blank
  else if b == octet '\n' then .complete .newline
  else if isDigitOctet b then .number
  else if isWordOctet b then .word
  else if b == octet '/' then .slash
  else if b == octet '"' || b == octet '\'' || b == rawQuote then .quoted b
  else .complete .mark

/-- The mode after one more octet, or nothing if the octet begins another lexeme. -/
def Mode.next? (mode : Mode) (b : UInt8) : Option Mode :=
  match mode with
  | .blank => if isBlankOctet b then some .blank else none
  | .word => if isWordOctet b then some .word else none
  | .number => if isWordOctet b || b == octet '.' then some .number else none
  | .slash =>
    if b == octet '/' then some .lineComment
    else if b == octet '*' then some (.blockComment false)
    else none
  | .lineComment => if b == octet '\n' then none else some .lineComment
  | .blockComment star =>
    if star && b == octet '/' then some (.complete .comment)
    else some (.blockComment (b == octet '*'))
  | .quoted quote =>
    if b == quote then some (.complete .literal)
    else if b == octet '\\' && quote != rawQuote then some (.escape quote)
    else some (.quoted quote)
  | .escape quote => some (.quoted quote)
  | .complete _ => none

/-- The kind of a lexeme that ends in the given mode. -/
def Mode.kind : Mode → Kind
  | .blank => .blank
  | .word | .number => .word
  | .slash => .mark
  | .lineComment | .blockComment _ => .comment
  | .quoted _ | .escape _ => .literal
  | .complete kind => kind

/-- The lexemes of octets that go on with a lexeme under way, of which `held` has been read, last
octet first. -/
def lexemesFrom : Mode → List UInt8 → List UInt8 → List Lexeme
  | mode, held, [] => [⟨mode.kind, held.reverse⟩]
  | mode, held, b :: rest =>
    match mode.next? b with
    | some mode => lexemesFrom mode (b :: held) rest
    | none => ⟨mode.kind, held.reverse⟩ :: lexemesFrom (.begin b) [b] rest

/-- The lexemes of source octets, each as long as it can be. -/
def lexemes : List UInt8 → List Lexeme
  | [] => []
  | b :: rest => lexemesFrom (.begin b) [b] rest

/-- The text of a stretch of lexemes. -/
def octetsOf (stretch : List Lexeme) : List UInt8 :=
  stretch.flatMap (·.octets)

/-- Scanning loses no octet. -/
theorem octetsOf_lexemesFrom (mode : Mode) (held rest : List UInt8) :
    octetsOf (lexemesFrom mode held rest) = held.reverse ++ rest := by
  induction rest generalizing mode held with
  | nil => simp [lexemesFrom, octetsOf]
  | cons b rest ih =>
    rw [lexemesFrom]
    split
    · simp [ih]
    · have later := ih (.begin b) [b]
      simp_all [octetsOf]

/-- No octet is lost, added or moved. -/
@[simp]
theorem octetsOf_lexemes (source : List UInt8) : octetsOf (lexemes source) = source := by
  cases source with
  | nil => rfl
  | cons b rest => simp [lexemes, octetsOf_lexemesFrom]

namespace Lexeme

/-- Whether a lexeme only separates others. -/
def isTrivia (x : Lexeme) : Bool :=
  x.kind == .blank || x.kind == .newline || x.kind == .comment

/-- Whether a lexeme is the given word. -/
def isWord (x : Lexeme) (text : String) : Bool :=
  x.kind == .word && x.octets == text.toList.map octet

/-- Whether a lexeme is the given mark. -/
def isMark (x : Lexeme) (c : Char) : Bool :=
  x.kind == .mark && x.octets == [octet c]

/-- Whether a lexeme opens a bracket. -/
def isOpening (x : Lexeme) : Bool :=
  x.isMark '(' || x.isMark '[' || x.isMark '{'

/-- Whether a lexeme closes a bracket. -/
def isClosing (x : Lexeme) : Bool :=
  x.isMark ')' || x.isMark ']' || x.isMark '}'

/-- The words that are reserved. -/
def keywords : List String :=
  ["break", "case", "chan", "const", "continue", "default", "defer", "else", "fallthrough", "for",
    "func", "go", "goto", "if", "import", "interface", "map", "package", "range", "return",
    "select", "struct", "switch", "type", "var"]

/-- Whether a lexeme is a reserved word. -/
def isKeyword (x : Lexeme) : Bool :=
  keywords.any x.isWord

/-- Whether a lexeme is a word that can name something. -/
def isName (x : Lexeme) : Bool :=
  x.kind == .word && !x.isKeyword && !isDigitOctet (x.octets.headD 0)

/-- Whether a line end after a lexeme ends the statement it stands in. -/
def endsStatement (x : Lexeme) : Bool :=
  match x.kind with
  | .word => !x.isKeyword || ["break", "continue", "fallthrough", "return"].any x.isWord
  | .literal => true
  | .mark => x.isClosing
  | _ => false

end Lexeme

end NearMiss.Go
