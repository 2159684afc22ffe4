import NearMiss.Go.Lexeme

/-!
# Statements of Go source

Brackets of all three forms nest. Outside of them a semicolon ends a statement, and so does a line
end behind a lexeme that can be the last of one.
-/

namespace NearMiss.Go

/-- Splits lexemes into statements. `level` counts the open brackets, `ends` tells whether a line
end would end the statement under way, and `held` is what has been read of it, last lexeme first. -/
def statementsFrom (level : Nat) (ends : Bool) (held : List Lexeme) :
    List Lexeme → List (List Lexeme)
  | [] => [held.reverse]
  | x :: rest =>
    if level == 0 && (x.isMark ';' || (x.kind == .newline && ends)) then
      held.reverse :: statementsFrom 0 false [] rest
    else
      let level := if x.isOpening then level + 1 else if x.isClosing then level - 1 else level
      let ends := if x.isTrivia then ends else x.endsStatement
      statementsFrom level ends (x :: held) rest

/-- The statements in a stretch of lexemes; what ends a statement is left out. -/
def statements (stretch : List Lexeme) : List (List Lexeme) :=
  statementsFrom 0 false [] stretch

/-- Cuts the lexemes behind an opening bracket at the bracket that closes it: what stands inside and
what stands behind. `level` counts the brackets opened since. -/
def enclosedFrom (level : Nat) : List Lexeme → List Lexeme × List Lexeme
  | [] => ([], [])
  | x :: rest =>
    if level == 0 && x.isClosing then ([], rest)
    else
      let level := if x.isOpening then level + 1 else if x.isClosing then level - 1 else level
      let (inside, behind) := enclosedFrom level rest
      (x :: inside, behind)

/-- What stands inside the bracket that was just opened, and what stands behind it. -/
def enclosed (stretch : List Lexeme) : List Lexeme × List Lexeme :=
  enclosedFrom 0 stretch

/-- The stretch from its first lexeme that is not trivia to its last. -/
def trimTrivia (stretch : List Lexeme) : List Lexeme :=
  ((stretch.dropWhile (·.isTrivia)).reverse.dropWhile (·.isTrivia)).reverse

/-- The first lexeme that is not trivia, and what stands behind it. -/
def next? (stretch : List Lexeme) : Option (Lexeme × List Lexeme) :=
  match stretch.dropWhile (·.isTrivia) with
  | [] => none
  | x :: rest => some (x, rest)

end NearMiss.Go
