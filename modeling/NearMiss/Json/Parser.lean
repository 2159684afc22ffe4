import NearMiss.Json.Basic

/-!
# Reading JSON text

A strict reader that says where a text stops being JSON. Besides the standard values it takes `NaN`
and the infinities as numbers. Of two fields with one name the later counts, and whole numbers may
have at most 4300 digits.

Strings are texts of characters. Half a surrogate pair is no character, so where an escape gives one
that has no other half, the replacement character stands in its place.
-/

namespace NearMiss.Json

/-- What is wrong with a JSON text at some place. -/
inductive Flaw where
  /-- No value begins there. -/
  | expectingValue
  /-- A field name in quotes should begin there. -/
  | expectingName
  /-- A colon should stand there. -/
  | expectingColon
  /-- A comma or the end of the array or object should stand there. -/
  | expectingComma
  /-- The text goes on after its value. -/
  | extraData
  /-- The string that begins there has no end. -/
  | unterminatedString
  /-- A control character stands in a string. -/
  | controlCharacter
  /-- The backslash begins no escape. -/
  | invalidEscape
  /-- The four hexadecimal digits of an escape are missing. -/
  | invalidUnicodeEscape
  /-- The text begins with a byte order mark. -/
  | byteOrderMark
  deriving DecidableEq, Repr

/-- The wording of a flaw. -/
def Flaw.message : Flaw → String
  | .expectingValue => "Expecting value"
  | .expectingName => "Expecting property name enclosed in double quotes"
  | .expectingColon => "Expecting ':' delimiter"
  | .expectingComma => "Expecting ',' delimiter"
  | .extraData => "Extra data"
  | .unterminatedString => "Unterminated string starting at"
  | .controlCharacter => "Invalid control character at"
  | .invalidEscape => "Invalid \\escape"
  | .invalidUnicodeEscape => "Invalid \\uXXXX escape"
  | .byteOrderMark => "Unexpected UTF-8 BOM (decode using utf-8-sig)"

/-- Why a text cannot be read. -/
inductive ReadError where
  /-- The text has a flaw at an offset. -/
  | malformed (flaw : Flaw) (offset : Nat)
  /-- A whole number has too many digits. -/
  | tooManyDigits (count : Nat)
  deriving DecidableEq, Repr

/-- The same refusals while reading, with places given by how much text is left there. -/
inductive Halt where
  /-- The text has a flaw where the given number of characters is left. -/
  | malformed (flaw : Flaw) (left : Nat)
  /-- A whole number has too many digits. -/
  | tooManyDigits (count : Nat)

/-- The most digits that a whole number may have. -/
def maxDigits : Nat := 4300

/-- The blanks of JSON. -/
def isSpace (c : Char) : Bool :=
  c == ' ' || c == '\t' || c == '\n' || c == '\r'

/-- The text after its leading blanks. -/
def skipSpace (s : List Char) : List Char :=
  s.dropWhile isSpace

/-! ## Strings -/

/-- The value of a hexadecimal digit. -/
def hexDigit? (c : Char) : Option Nat :=
  if '0' ≤ c ∧ c ≤ '9' then some (c.toNat - '0'.toNat)
  else if 'a' ≤ c ∧ c ≤ 'f' then some (c.toNat - 'a'.toNat + 10)
  else if 'A' ≤ c ∧ c ≤ 'F' then some (c.toNat - 'A'.toNat + 10)
  else none

/-- The value of four hexadecimal digits. -/
def hexFour? (a b c d : Char) : Option Nat := do
  let a ← hexDigit? a
  let b ← hexDigit? b
  let c ← hexDigit? c
  let d ← hexDigit? d
  return ((a * 16 + b) * 16 + c) * 16 + d

/-- The character that a backslash and one further character stand for. -/
def simpleEscape? : Char → Option Char
  | '"' => some '"'
  | '\\' => some '\\'
  | '/' => some '/'
  | 'b' => some '\x08'
  | 'f' => some '\x0c'
  | 'n' => some '\n'
  | 'r' => some '\r'
  | 't' => some '\t'
  | _ => none

/-- The code numbers of a string up to its closing quote, and the text after it, where `opening` is
what was left at the opening quote. Escapes may give halves of a surrogate pair. -/
def stringCodes (opening : Nat) : List Char → Except Halt (List Nat × List Char)
  | [] => .error (.malformed .unterminatedString opening)
  | '"' :: rest => .ok ([], rest)
  | ['\\'] => .error (.malformed .unterminatedString opening)
  | '\\' :: 'u' :: a :: b :: c :: d :: e :: rest =>
    match hexFour? a b c d with
    | none => .error (.malformed .invalidUnicodeEscape (rest.length + 6))
    | some n => do
      let (codes, rest) ← stringCodes opening (e :: rest)
      return (n :: codes, rest)
  | '\\' :: 'u' :: rest => .error (.malformed .invalidUnicodeEscape (rest.length + 1))
  | '\\' :: c :: rest =>
    match simpleEscape? c with
    | none => .error (.malformed .invalidEscape (rest.length + 2))
    | some c => do
      let (codes, rest) ← stringCodes opening rest
      return (c.toNat :: codes, rest)
  | c :: rest =>
    if c.toNat < 0x20 then .error (.malformed .controlCharacter (rest.length + 1))
    else do
      let (codes, rest) ← stringCodes opening rest
      return (c.toNat :: codes, rest)

/-- Whether a code number is the first half of a surrogate pair. -/
def isHighHalf (n : Nat) : Bool :=
  0xD800 ≤ n && n ≤ 0xDBFF

/-- Whether a code number is the second half of a surrogate pair. -/
def isLowHalf (n : Nat) : Bool :=
  0xDC00 ≤ n && n ≤ 0xDFFF

/-- The characters of code numbers: two halves next to each other make one character, and a half
that stands alone is replaced. -/
def joinHalves : List Nat → List Char
  | [] => []
  | high :: low :: rest =>
    if isHighHalf high && isLowHalf low then
      Char.ofNat (0x10000 + (high - 0xD800) * 0x400 + (low - 0xDC00)) :: joinHalves rest
    else (if isHighHalf high || isLowHalf high then '\ufffd' else Char.ofNat high) ::
      joinHalves (low :: rest)
  | [n] => [if isHighHalf n || isLowHalf n then '\ufffd' else Char.ofNat n]

/-- The string after an opening quote, and the text after its closing quote. -/
def stringBody (s : List Char) : Except Halt (String × List Char) := do
  let (codes, rest) ← stringCodes (s.length + 1) s
  return (String.ofList (joinHalves codes), rest)

/-! ## Numbers -/

/-- The number that decimal digits spell. -/
def digitsValue (digits : List Char) : Nat :=
  digits.foldl (fun n c => n * 10 + (c.toNat - '0'.toNat)) 0

/-- The digits of the whole part: a zero alone, or a run that begins with another digit. -/
def wholePart? (s : List Char) : Option (List Char × List Char) :=
  match s with
  | '0' :: rest => some (['0'], rest)
  | c :: _ => if c.isDigit then some (s.takeWhile Char.isDigit, s.dropWhile Char.isDigit) else none
  | [] => none

/-- The digits of a fraction, which is a point with at least one digit after it. -/
def fraction (s : List Char) : List Char × List Char :=
  match s with
  | '.' :: rest =>
    let digits := rest.takeWhile Char.isDigit
    if digits.isEmpty then ([], s) else (digits, rest.dropWhile Char.isDigit)
  | _ => ([], s)

/-- The exponent after its letter: a sign or none, then at least one digit. -/
def exponentDigits? (s : List Char) : Option (Int × List Char) :=
  let (negative, body) :=
    match s with
    | '-' :: rest => (true, rest)
    | '+' :: rest => (false, rest)
    | _ => (false, s)
  let digits := body.takeWhile Char.isDigit
  if digits.isEmpty then none
  else
    let n : Int := digitsValue digits
    some (if negative then -n else n, body.dropWhile Char.isDigit)

/-- The exponent at the front of a text, if one is there. -/
def exponent? (s : List Char) : Option (Int × List Char) :=
  match s with
  | 'e' :: rest => exponentDigits? rest
  | 'E' :: rest => exponentDigits? rest
  | _ => none

/-- The number without its sign at the front of a text, and the text after it; `left` is what was
left where the number began. -/
def unsigned (left : Nat) (negative : Bool) (s : List Char) : Except Halt (Json × List Char) :=
  match wholePart? s with
  | none => .error (.malformed .expectingValue left)
  | some (whole, afterWhole) =>
    let (places, afterPlaces) := fraction afterWhole
    let scale : Int := places.length
    match exponent? afterPlaces with
    | some (e, rest) => .ok (.decimal ⟨negative, digitsValue (whole ++ places), e - scale⟩, rest)
    | none =>
      if !places.isEmpty then
        .ok (.decimal ⟨negative, digitsValue (whole ++ places), -scale⟩, afterPlaces)
      else if maxDigits < whole.length then .error (.tooManyDigits whole.length)
      else
        let n : Int := digitsValue whole
        .ok (.int (if negative then -n else n), afterPlaces)

/-! ## Values -/

mutual

/-- The value at the front of a text, and the text after it. -/
def value : Nat → List Char → Except Halt (Json × List Char)
  | 0, s => .error (.malformed .expectingValue s.length)
  | fuel + 1, s =>
    match s with
    | '"' :: rest => do
      let (text, rest) ← stringBody rest
      return (.str text, rest)
    | '[' :: rest =>
      match skipSpace rest with
      | ']' :: rest => .ok (.arr [], rest)
      | rest => do
        let (found, rest) ← items fuel rest
        return (.arr found, rest)
    | '{' :: rest =>
      match skipSpace rest with
      | '}' :: rest => .ok (.obj [], rest)
      | rest => do
        let (found, rest) ← members fuel [] rest
        return (.obj found, rest)
    | 'n' :: 'u' :: 'l' :: 'l' :: rest => .ok (.null, rest)
    | 't' :: 'r' :: 'u' :: 'e' :: rest => .ok (.bool true, rest)
    | 'f' :: 'a' :: 'l' :: 's' :: 'e' :: rest => .ok (.bool false, rest)
    | 'N' :: 'a' :: 'N' :: rest => .ok (.nan, rest)
    | 'I' :: 'n' :: 'f' :: 'i' :: 'n' :: 'i' :: 't' :: 'y' :: rest => .ok (.infinity false, rest)
    | '-' :: 'I' :: 'n' :: 'f' :: 'i' :: 'n' :: 'i' :: 't' :: 'y' :: rest =>
      .ok (.infinity true, rest)
    | '-' :: rest => unsigned (rest.length + 1) true rest
    | s => unsigned s.length false s

/-- The items of an array from the first one on, and the text after its closing bracket. -/
def items : Nat → List Char → Except Halt (List Json × List Char)
  | 0, s => .error (.malformed .expectingValue s.length)
  | fuel + 1, s => do
    let (first, rest) ← value fuel s
    match skipSpace rest with
    | ']' :: rest => return ([first], rest)
    | ',' :: rest => do
      let (later, rest) ← items fuel (skipSpace rest)
      return (first :: later, rest)
    | rest => .error (.malformed .expectingComma rest.length)

/-- The fields of an object from a name on, added to those before it, and the text after the
closing brace. -/
def members : Nat → List (String × Json) → List Char →
    Except Halt (List (String × Json) × List Char)
  | 0, _, s => .error (.malformed .expectingName s.length)
  | fuel + 1, before, s =>
    match s with
    | '"' :: rest => do
      let (name, rest) ← stringBody rest
      match skipSpace rest with
      | ':' :: rest => do
        let (found, rest) ← value fuel (skipSpace rest)
        let fields := setField name found before
        match skipSpace rest with
        | '}' :: rest => return (fields, rest)
        | ',' :: rest => members fuel fields (skipSpace rest)
        | rest => .error (.malformed .expectingComma rest.length)
      | rest => .error (.malformed .expectingColon rest.length)
    | s => .error (.malformed .expectingName s.length)

end

/-- The one value of a text. Every step of the reader takes up a character or enters a value where
one was announced, so twice the length of the text bounds the number of steps. -/
def parseText (s : List Char) : Except Halt Json := do
  match s with
  | '\ufeff' :: _ => .error (.malformed .byteOrderMark s.length)
  | _ =>
    let (found, rest) ← value (2 * s.length + 2) (skipSpace s)
    match skipSpace rest with
    | [] => return found
    | rest => .error (.malformed .extraData rest.length)

/-- Reads a JSON text. -/
def parse (text : String) : Except ReadError Json :=
  match parseText text.toList with
  | .ok found => .ok found
  | .error (.malformed flaw left) => .error (.malformed flaw (text.length - left))
  | .error (.tooManyDigits count) => .error (.tooManyDigits count)

/-- The line of an offset, counted from one; only line feeds count. -/
def lineOf (text : List Char) (offset : Nat) : Nat :=
  (text.take offset).count '\n' + 1

/-- The column of an offset in its line, counted from one. -/
def columnOf (text : List Char) (offset : Nat) : Nat :=
  ((text.take offset).reverse.takeWhile (· != '\n')).length + 1

end NearMiss.Json
