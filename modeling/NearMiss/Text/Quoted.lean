import NearMiss.Text.Printable

/-!
# Quoted texts

A text between quotes as it is shown in messages: single quotes, unless it holds a single quote and
no double one. Backslashes, the chosen quote and characters that do not print are escaped.
-/

namespace NearMiss.Text

/-- The lower-case hexadecimal digits of a number, filled with zeros to a width. -/
def hexPadded (width n : Nat) : List Char :=
  let digits := Nat.toDigits 16 n
  List.replicate (width - digits.length) '0' ++ digits

/-- A character inside the given quotes; `shown` says which characters may stand for
themselves. -/
def quoteChar (shown : Char → Bool) (mark c : Char) : List Char :=
  if c = mark || c = '\\' then ['\\', c]
  else if c = '\n' then ['\\', 'n']
  else if c = '\r' then ['\\', 'r']
  else if c = '\t' then ['\\', 't']
  else if shown c then [c]
  else if c.toNat < 0x100 then ['\\', 'x'] ++ hexPadded 2 c.toNat
  else if c.toNat < 0x10000 then ['\\', 'u'] ++ hexPadded 4 c.toNat
  else ['\\', 'U'] ++ hexPadded 8 c.toNat

/-- A text between quotes, where only some characters may stand for themselves. -/
def quotedBy (shown : Char → Bool) (s : String) : String :=
  let chars := s.toList
  let mark := if chars.contains '\'' && !chars.contains '"' then '"' else '\''
  String.ofList (mark :: (chars.flatMap (quoteChar shown mark) ++ [mark]))

/-- A text between quotes. -/
def quoted (s : String) : String :=
  quotedBy isPrintable s

/-- A text between quotes in which every character past ASCII is escaped. -/
def quotedAscii (s : String) : String :=
  quotedBy (fun c => isPrintable c && c.toNat < 0x80) s

end NearMiss.Text
