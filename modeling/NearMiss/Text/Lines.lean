/-!
# Lines of a text

A text is cut into lines after every line end. Besides line feed and carriage return, the vertical
tab, form feed, information separators, next-line and the two Unicode separators end a line, and a
carriage return followed by a line feed ends one line only.
-/

namespace NearMiss.Text

/-- Characters that end a line on their own. -/
def endsLine (c : Char) : Bool :=
  let n := c.toNat
  (0x0A ≤ n && n ≤ 0x0D) || (0x1C ≤ n && n ≤ 0x1E) || n == 0x85 || n == 0x2028 || n == 0x2029

/-- The lines of a text without their ends. A line end that closes the text opens no further,
empty line. -/
def lines : List Char → List (List Char)
  | [] => []
  | '\r' :: '\n' :: rest => [] :: lines rest
  | c :: rest =>
    if endsLine c then [] :: lines rest
    else
      match lines rest with
      | [] => [[c]]
      | line :: later => (c :: line) :: later

/-- Text as it is read from a file: a carriage return, alone or before a line feed, becomes one
line feed. -/
def normalizeNewlines : List Char → List Char
  | [] => []
  | '\r' :: '\n' :: rest => '\n' :: normalizeNewlines rest
  | c :: rest => (if c = '\r' then '\n' else c) :: normalizeNewlines rest

end NearMiss.Text
