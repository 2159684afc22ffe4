import NearMiss.Text.Alphanumeric
import NearMiss.Text.Blank

/-!
# Handlers of tags

A tag whose name begins with an at sign may name a handler, with arguments in parens. In place of a
handler it may also give a value. Arguments and values are literals: numbers, texts, octets, tuples,
sets and dictionaries, and a few constants. Only whether they are well formed counts.
-/

namespace NearMiss.Console.Handler

open Text

/-- The kinds of literals, as far as they decide where a literal may stand. -/
inductive Literal where
  /-- A number without a sign. -/
  | real
  /-- An imaginary number without a sign. -/
  | imaginary
  /-- A number with a sign. -/
  | signedReal
  /-- Another value that may be a key or a member of a set. -/
  | value
  /-- A value that may be neither. -/
  | container
  deriving DecidableEq, Repr

/-- Whether a literal may be a key or a member of a set. -/
def Literal.canBeKey : Literal → Bool
  | .container => false
  | _ => true

/-- What is read at the front of a text, and the text behind it. -/
abbrev Found (α : Type) := Option (α × List Char)

/-! ## Blanks -/

/-- The text behind a line's comment. -/
def skipComment (s : List Char) : List Char :=
  s.dropWhile (· != '\n')

/-- The text behind leading blanks. Inside brackets line ends and comments count as blanks. -/
def skipUpTo (nested : Bool) : Nat → List Char → List Char
  | 0, s => s
  | fuel + 1, s =>
    match s with
    | '\\' :: '\n' :: rest => skipUpTo nested fuel rest
    | c :: rest =>
      if c = ' ' || c = '\t' || c = '\x0c' then skipUpTo nested fuel rest
      else if nested && (c = '\n' || c = '\r') then skipUpTo nested fuel rest
      else if nested && c = '#' then skipUpTo nested fuel (skipComment rest)
      else s
    | [] => []

/-- The text behind leading blanks. -/
def skip (nested : Bool) (s : List Char) : List Char :=
  skipUpTo nested s.length s

/-! ## Numbers -/

/-- Whether a character can go on a name or a number. -/
def isWordChar (c : Char) : Bool :=
  isAlphanumeric c || c == '_'

/-- Digits with single underscores between them, and the text behind them. `inside` tells whether a
digit was read before. -/
def digitsFrom (isDigit : Char → Bool) (inside : Bool) : List Char → List Char × List Char
  | [] => ([], [])
  | c :: rest =>
    if isDigit c then
      let (digits, behind) := digitsFrom isDigit true rest
      (c :: digits, behind)
    else if inside && c = '_' && rest.head?.any isDigit then digitsFrom isDigit false rest
    else ([], c :: rest)

/-- Digits with single underscores between them, and the text behind them. -/
def digitPart (isDigit : Char → Bool) (s : List Char) : List Char × List Char :=
  digitsFrom isDigit false s

/-- Whether a character is a digit of a base up to sixteen. -/
def isDigitOf (base : Nat) (c : Char) : Bool :=
  let value :=
    if c.isDigit then c.toNat - '0'.toNat
    else if 'a' ≤ c.toLower && c.toLower ≤ 'f' then c.toLower.toNat - 'a'.toNat + 10
    else 16
  value < base

/-- A whole number in another base, whose digits may begin with an underscore. -/
def basedNumber (base : Nat) (s : List Char) : Found Literal :=
  let s := match s with | '_' :: rest => rest | s => s
  match digitPart (isDigitOf base) s with
  | ([], _) => none
  | (_, rest) => some (.real, rest)

/-- The text behind an exponent, or the text itself if it has none. -/
def afterExponent (s : List Char) : Bool × List Char :=
  match s with
  | e :: rest =>
    if e = 'e' || e = 'E' then
      let signless :=
        match rest with
        | c :: later => if c = '+' || c = '-' then later else rest
        | [] => []
      match digitPart Char.isDigit signless with
      | ([], _) => (false, s)
      | (_, behind) => (true, behind)
    else (false, s)
  | [] => (false, s)

/-- How many digits a whole number may have. -/
def maxDigits : Nat := 4300

/-- A number in base ten: whole, with a point, with an exponent, or imaginary. A whole number does
not begin with zero unless it is zero. -/
def decimalNumber (s : List Char) : Found Literal :=
  let (whole, rest) := digitPart Char.isDigit s
  let (hasPoint, fraction, rest) :=
    match rest with
    | '.' :: behind =>
      let (fraction, behind) := digitPart Char.isDigit behind
      (true, fraction, behind)
    | rest => (false, [], rest)
  if whole.isEmpty && fraction.isEmpty then none
  else
    let (hasExponent, rest) := afterExponent rest
    match rest with
    | c :: behind =>
      if c = 'j' || c = 'J' then some (.imaginary, behind)
      else if hasPoint || hasExponent || (whole.length ≤ maxDigits &&
          (whole.head? != some '0' || whole.all (· == '0'))) then some (.real, rest)
      else none
    | [] =>
      if hasPoint || hasExponent || (whole.length ≤ maxDigits &&
          (whole.head? != some '0' || whole.all (· == '0'))) then some (.real, [])
      else none

/-- A number without a sign. No letter or digit may follow it. -/
def number (s : List Char) : Found Literal :=
  let found :=
    match s with
    | '0' :: c :: rest =>
      if c = 'x' || c = 'X' then basedNumber 16 rest
      else if c = 'o' || c = 'O' then basedNumber 8 rest
      else if c = 'b' || c = 'B' then basedNumber 2 rest
      else decimalNumber s
    | _ => decimalNumber s
  found.bind fun (literal, rest) =>
    if rest.head?.any isWordChar then none else some (literal, rest)

/-! ## Texts -/

/-- The kinds of texts that a letter in front of the quote tells apart. -/
structure Quoting where
  /-- Whether backslashes stand for themselves. -/
  raw : Bool
  /-- Whether it holds octets. -/
  octets : Bool
  deriving DecidableEq, Repr

/-- The quoting that the letters in front of a quote ask for. -/
def Quoting.ofLetters? (letters : List Char) : Option Quoting :=
  match String.ofList (letters.map Char.toLower) with
  | "" => some ⟨false, false⟩
  | "u" => some ⟨false, false⟩
  | "r" => some ⟨true, false⟩
  | "b" => some ⟨false, true⟩
  | "br" => some ⟨true, true⟩
  | "rb" => some ⟨true, true⟩
  | _ => none

/-- Whether a text begins with so many hexadecimal digits that spell a code point. -/
def spellsCodePoint (count : Nat) (s : List Char) : Bool :=
  let digits := s.take count
  digits.length = count && digits.all (isDigitOf 16) &&
    digits.foldl (fun n c => n * 16 +
      (if c.isDigit then c.toNat - '0'.toNat else c.toLower.toNat - 'a'.toNat + 10)) 0 ≤ 0x10FFFF

/-- Whether the name of a character in braces comes next. -/
def namesCharacter (s : List Char) : Bool :=
  match s with
  | '{' :: rest =>
    let name := rest.takeWhile (· != '}')
    !name.isEmpty && name.length < rest.length &&
      name.all fun c => c.isAlphanum || c == ' ' || c == '-'
  | _ => false

/-- Whether what follows a backslash is well formed. -/
def escapes (quoting : Quoting) (s : List Char) : Bool :=
  match s with
  | 'x' :: rest => spellsCodePoint 2 rest
  | 'u' :: rest => quoting.octets || spellsCodePoint 4 rest
  | 'U' :: rest => quoting.octets || spellsCodePoint 8 rest
  | 'N' :: rest => quoting.octets || namesCharacter rest
  | _ => true

/-- The text behind the closing quotes, if the text before them is well formed. Only between triple
quotes a line may end. -/
def afterQuotes? (quoting : Quoting) (mark : Char) (triple : Bool) : List Char → Option (List Char)
  | [] => none
  | '\\' :: rest =>
    match rest with
    | [] => none
    | c :: later =>
      if !quoting.raw && !escapes quoting rest then none
      else if quoting.octets && 0x80 ≤ c.toNat then none
      else afterQuotes? quoting mark triple later
  | c :: rest =>
    if c = mark && (!triple || rest.take 2 = [mark, mark]) then
      some (if triple then rest.drop 2 else rest)
    else if !triple && c = '\n' then none
    else if quoting.octets && 0x80 ≤ c.toNat then none
    else afterQuotes? quoting mark triple rest

/-- A text in quotes with the letters in front of it. -/
def quoted (s : List Char) : Found Quoting :=
  let letters := s.takeWhile Char.isAlpha
  (Quoting.ofLetters? letters).bind fun quoting =>
    match s.drop letters.length with
    | mark :: rest =>
      if mark = '\'' || mark = '"' then
        let triple := rest.take 2 = [mark, mark]
        let body := if triple then rest.drop 2 else rest
        (afterQuotes? quoting mark triple body).map fun rest => (quoting, rest)
      else none
    | [] => none

/-- Texts in quotes one after the other, all of one kind. -/
def quotedTextsUpTo (nested : Bool) (octets : Bool) : Nat → List Char → Option (List Char)
  | 0, s => some s
  | fuel + 1, s =>
    let next := skip nested s
    let letters := next.takeWhile Char.isAlpha
    match next.drop letters.length with
    | mark :: _ =>
      if mark = '\'' || mark = '"' then
        (quoted next).bind fun (quoting, rest) =>
          if quoting.octets = octets then quotedTextsUpTo nested octets fuel rest else none
      else some s
    | [] => some s

/-! ## Values -/

/-- The items of a list up to the given closing mark: their kinds, whether a comma follows the last
one, and the text behind the mark. Keys are followed by colons and values if `paired`. -/
def itemsUpTo (item : List Char → Found Literal) (closing : Char) (paired : Bool) :
    Nat → List Char → Found (List Literal × Bool)
  | 0, _ => none
  | fuel + 1, s =>
    match item (skip true s) with
    | none => none
    | some (literal, rest) =>
      let behind : Option (List Char) :=
        if paired then
          match skip true rest with
          | ':' :: rest => (item (skip true rest)).map Prod.snd
          | _ => none
        else some rest
      match behind.map (skip true) with
      | some (c :: rest) =>
        if c = closing then some (([literal], false), rest)
        else if c = ',' then
          match skip true rest with
          | d :: later =>
            if d = closing then some (([literal], true), later)
            else
              (itemsUpTo item closing paired fuel (d :: later)).map
                fun ((literals, comma), rest) => ((literal :: literals, comma), rest)
          | [] => none
        else none
      | _ => none

/-- The kind of items in parens: a single one without a comma is itself. -/
def ofItems (literals : List Literal) (comma : Bool) : Literal :=
  match literals, comma with
  | [literal], false => literal
  | literals, _ => if literals.all Literal.canBeKey then .value else .container

/-- A value in parens or braces, where values inside are read by the given reader. -/
def bracketed (item : List Char → Found Literal) (s : List Char) : Found Literal :=
  match s with
  | '(' :: rest =>
    match skip true rest with
    | ')' :: behind => some (.value, behind)
    | inside =>
      (itemsUpTo item ')' false inside.length inside).map fun ((literals, comma), rest) =>
        (ofItems literals comma, rest)
  | '{' :: rest =>
    match skip true rest with
    | '}' :: behind => some (.container, behind)
    | inside =>
      let found :=
        match itemsUpTo item '}' true inside.length inside with
        | some found => some found
        | none => itemsUpTo item '}' false inside.length inside
      found.bind fun ((literals, _), rest) =>
        if literals.all Literal.canBeKey then some (.container, rest) else none
  | _ => none

/-- A constant that has a name, or the empty set, which is written as a call. -/
def constant (nested : Bool) (s : List Char) : Found Literal :=
  let word := s.takeWhile isWordChar
  let rest := s.drop word.length
  match String.ofList word with
  | "True" => some (.value, rest)
  | "False" => some (.value, rest)
  | "None" => some (.value, rest)
  | "set" =>
    match skip nested rest with
    | '(' :: inside =>
      match skip true inside with
      | ')' :: behind => some (.container, behind)
      | _ => none
    | _ => none
  | _ => none

/-- A value without a sign, where values inside are read by the given reader. -/
def atom (nested : Bool) (item : List Char → Found Literal) (s : List Char) : Found Literal :=
  match s with
  | '.' :: '.' :: '.' :: rest => some (.value, rest)
  | '(' :: _ => bracketed item s
  | '{' :: _ => bracketed item s
  | _ =>
    match number s with
    | some found => some found
    | none =>
      match quoted s with
      | some (quoting, rest) =>
        (quotedTextsUpTo nested quoting.octets s.length rest).map fun rest => (.value, rest)
      | none => constant nested s

/-- A value that may have a sign, if it is a number. -/
def signed (nested : Bool) (item : List Char → Found Literal) (s : List Char) : Found Literal :=
  match s with
  | c :: rest =>
    if c = '+' || c = '-' then
      (atom nested item (skip nested rest)).bind fun (literal, rest) =>
        match literal with
        | .real => some (.signedReal, rest)
        | .imaginary => some (.value, rest)
        | _ => none
    else atom nested item s
  | [] => none

/-- A value: one that may have a sign, or a number and an imaginary one. -/
def literalUpTo (nested : Bool) : Nat → List Char → Found Literal
  | 0, _ => none
  | fuel + 1, s =>
    let item := literalUpTo true fuel
    (signed nested item s).bind fun (literal, rest) =>
      match skip nested rest with
      | c :: behind =>
        if c = '+' || c = '-' then
          match atom nested item (skip nested behind) with
          | some (.imaginary, rest) =>
            if literal = .real || literal = .signedReal then some (.value, rest) else none
          | _ => none
        else some (literal, rest)
      | [] => some (literal, rest)

/-- Whether nothing but blank lines and comments is left. -/
def isOver (s : List Char) : Bool :=
  match skip false s with
  | [] => true
  | c :: _ => (c = '\n' || c = '#') && (skip true s).isEmpty

/-- Whether a text is one value or several between commas. -/
def areLiteralsUpTo : Nat → List Char → Bool
  | 0, _ => false
  | fuel + 1, s =>
    match literalUpTo false s.length (skip false s) with
    | none => false
    | some (_, rest) =>
      match skip false rest with
      | ',' :: later => isOver later || areLiteralsUpTo fuel later
      | _ => isOver rest

/-- Whether a text gives a value. -/
def isLiteral (s : List Char) : Bool :=
  !s.contains '\x00' && areLiteralsUpTo s.length s

/-- Whether the parameters of a tag are well formed: a handler, a handler with arguments, or a
value. -/
def isWellFormed (parameters : List Char) : Bool :=
  let text := trim parameters
  let isNamePart (c : Char) : Bool := isWordChar c || c == '.'
  match text.dropWhile isNamePart with
  | [] => true
  | '(' :: rest =>
    if rest.getLast? = some ')' && !rest.contains '\n' then isLiteral ('(' :: rest)
    else isLiteral text
  | _ => isLiteral text

end NearMiss.Console.Handler
