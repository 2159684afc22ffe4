import NearMiss.Text.Blank

/-!
# Whole numbers in texts

A text spells a whole number plainly if it has a minus at most in front of its digits and no zeros
before the first one that counts. Other spellings are made plain first: blanks around the number, a
plus, leading zeros, zeros after a point and single underscores between digits are taken away.
-/

namespace NearMiss.Schema

/-- What a text says when it is read as a plain whole number. -/
inductive Numeral where
  /-- It is a number. -/
  | number (n : Int)
  /-- It begins as a number with more digits than are read. -/
  | oversized
  /-- It is no number. -/
  | malformed
  deriving DecidableEq, Repr

/-- How many digits a number in a text may have. -/
def maxDigits : Nat := 4300

/-- The number of a row of ASCII digits. -/
def natOfDigits (digits : List Char) : Nat :=
  digits.foldl (fun n c => n * 10 + (c.toNat - '0'.toNat)) 0

/-- Reads digits without leading zeros. -/
def Numeral.ofDigits (s : List Char) : Numeral :=
  let digits := s.takeWhile Char.isDigit
  match s with
  | [] => .malformed
  | ['0'] => .number 0
  | '0' :: _ => .malformed
  | _ =>
    if maxDigits < digits.length then .oversized
    else if digits.length = s.length then .number (natOfDigits digits)
    else .malformed

/-- The number with its sign turned round. -/
def Numeral.negated : Numeral → Numeral
  | .number n => .number (-n)
  | other => other

/-- Reads a plain whole number. -/
def Numeral.ofPlain (s : List Char) : Numeral :=
  match s with
  | '-' :: rest => (ofDigits rest).negated
  | _ => ofDigits s

/-! ## Making a number plain -/

/-- The blanks that may stand around a number: those of Unicode, without the separators `1C` to
`1F`. -/
def isMargin (c : Char) : Bool :=
  Text.isBlank c && !(0x1C ≤ c.toNat && c.toNat ≤ 0x1F)

/-- The text without the blanks that may stand around a number. -/
def trimMargin (s : List Char) : List Char :=
  ((s.dropWhile isMargin).reverse.dropWhile isMargin).reverse

/-- The number after zeros, the last of which was `last`. Underscores among the zeros do not count,
and the zero before a point stays. -/
def afterZeros (last : Char) : List Char → Option (List Char)
  | [] => some [last]
  | c :: rest =>
    if c = '0' || c = '_' then afterZeros c rest
    else if c = '-' || c.isDigit then some (c :: rest)
    else if c = '.' then some (last :: c :: rest)
    else none

/-- The number without its leading zeros. -/
def withoutZeros : List Char → Option (List Char)
  | [] => none
  | c :: rest =>
    if c = '0' then afterZeros c rest
    else if c = '-' || c.isDigit then some (c :: rest)
    else none

/-- The number without a point that only zeros follow. -/
def withoutDecimals (s : List Char) : List Char :=
  match s.dropWhile (· != '.') with
  | _ :: zeros =>
    if !zeros.isEmpty && zeros.all (· == '0') then s.takeWhile (· != '.') else s
  | [] => s

/-- Whether two underscores stand side by side. -/
def hasDoubleUnderscore : List Char → Bool
  | '_' :: '_' :: _ => true
  | _ :: rest => hasDoubleUnderscore rest
  | [] => false

/-- The number without its underscores, if they all stand alone and inside. -/
def withoutUnderscores (s : List Char) : List Char :=
  if s.head? = some '_' || s.getLast? = some '_' || hasDoubleUnderscore s then s
  else s.filter (· != '_')

/-- A number without its sign, made plain. -/
def plainMagnitude? (s : List Char) : Option (List Char) :=
  (withoutZeros s).map fun s => withoutUnderscores (withoutDecimals s)

/-- A number made plain. -/
def plain? (s : List Char) : Option (List Char) :=
  match trimMargin s with
  | '+' :: '-' :: _ => none
  | '+' :: rest => plainMagnitude? rest
  | '-' :: rest => (plainMagnitude? rest).map ('-' :: ·)
  | s => plainMagnitude? s

/-- Reads a whole number. Only a text that is plain as it stands can have too many digits; any other
text with too many is no number. -/
def Numeral.ofText (s : List Char) : Numeral :=
  match ofPlain s with
  | .malformed =>
    match (plain? s).map ofPlain with
    | some (.number n) => .number n
    | _ => .malformed
  | numeral => numeral

end NearMiss.Schema
