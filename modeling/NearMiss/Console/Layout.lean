import NearMiss.Console.CellWidth
import NearMiss.Console.Markup
import NearMiss.Text.Lines
import NearMiss.Text.Split

/-!
# Layout of printed text

Printed text is free of the control characters that move the cursor, and its tabs are filled up with
blanks. The console is taken to be as wide as what is printed needs: nothing is broken or cut off at
its edge. Room is limited only inside a table, by the widths of its columns, and over it. There a
line is broken between words. Text that still does not fit is broken inside words or cut off with an
ellipsis.
-/

namespace NearMiss.Console

open Text

/-- Whether a character moves the cursor and is therefore not printed. -/
def movesCursor (c : Char) : Bool :=
  let n := c.toNat
  n == 7 || n == 8 || n == 11 || n == 12 || n == 13

/-- The text that begins in the given column, with blanks for its tabs: each reaches to the next
multiple of eight. -/
def expandTabs (column : Nat) : List Char → List Char
  | [] => []
  | c :: rest =>
    if c = '\t' then
      let next := (column / 8 + 1) * 8
      List.replicate (next - column) ' ' ++ expandTabs next rest
    else c :: expandTabs (column + columns c) rest

/-- The printed lines of a shown text. -/
def printedLines (shown : List Char) : List (List Char) :=
  (split '\n' (shown.filter (!movesCursor ·))).map (expandTabs 0)

/-- The words of a line, each with the blanks behind it and the first also with those in front. A
line of blanks has none. `inside` tells whether a word has begun, and `held` is what has been read
of it, last character first. -/
def wordsFrom (inside : Bool) (held : List Char) : List Char → List (List Char)
  | [] => if inside then [held.reverse] else []
  | c :: rest =>
    if isBlank c then wordsFrom inside (c :: held) rest
    else if inside && held.head?.any isBlank then held.reverse :: wordsFrom true [c] rest
    else wordsFrom true (c :: held) rest

/-- Cuts a text into stretches of at most the given width. -/
def chop (room : Nat) (held : List Char) : List Char → List (List Char)
  | [] => [held.reverse]
  | c :: rest =>
    if room < width held + columns c then held.reverse :: chop room [c] rest
    else chop room (c :: held) rest

/-- Lines under way: those that are done and the one that is being filled, which takes up the given
columns. -/
structure Filling where
  /-- The lines that are done. -/
  finished : List (List Char)
  /-- The line that is being filled. -/
  current : List Char
  /-- The columns it takes up. -/
  used : Nat

/-- The lines under way with the current one finished, unless nothing is in it. -/
def Filling.close (filling : Filling) : List (List Char) :=
  if filling.current.isEmpty then filling.finished else filling.finished ++ [filling.current]

/-- Puts a word on the current line or on the next. A word that is wider than a line begins a line
of its own, and goes on over several if it may be broken. -/
def Filling.put (room : Nat) (mayBreak : Bool) (filling : Filling) (word : List Char) : Filling :=
  let needed := width (trimRight word)
  if filling.used + needed ≤ room then
    { filling with current := filling.current ++ word, used := filling.used + width word }
  else if room < needed && mayBreak then
    let parts := chop room [] word
    let last := parts.getLastD []
    ⟨filling.close ++ parts.dropLast, last, width last⟩
  else ⟨filling.close, word, width word⟩

/-- Removes blanks from the end of a line as far as they stand out. -/
def trimExcess (room : Nat) (line : List Char) : List Char :=
  let blanks := line.length - (trimRight line).length
  line.take (line.length - min blanks (line.length - room))

/-- A line broken to a width. -/
def wrap (room : Nat) (mayBreak : Bool) (line : List Char) : List (List Char) :=
  match wordsFrom false [] line with
  | [] => [trimExcess room line]
  | words =>
    let filling := words.foldl (Filling.put room mayBreak) ⟨[], [], 0⟩
    (filling.finished ++ [filling.current]).map (trimExcess room)

/-- Characters that are known to take up one column each. -/
def isPlainColumn (c : Char) : Bool :=
  let n := c.toNat
  (0x20 ≤ n && n ≤ 0x6F) || n == 0xA0 || n == 0x2FF || (0x370 ≤ n && n ≤ 0x482)

/-- The front of a text that takes up the given columns, found by halving the stretch from `low` to
`high` in which it ends, at most as often as `fuel` allows. A blank stands for the half of a wide
character. -/
def takeColumnsUpTo (room : Nat) (s : List Char) : Nat → Nat → Nat → List Char
  | 0, low, _ => s.take low
  | fuel + 1, low, high =>
    let middle := (low + high) / 2
    let front := s.take (middle + 1)
    let used := width front
    if used = room + 1 && (front.getLast?.any fun c => columns c == 2) then front.dropLast ++ [' ']
    else if used = room then front
    else if room < used then takeColumnsUpTo room s fuel low middle
    else takeColumnsUpTo room s fuel middle high

/-- The front of a text that is wider than the given columns, as much as takes them up. -/
def takeColumns (room : Nat) (s : List Char) : List Char :=
  if s.all isPlainColumn then s.take room
  else if room = 0 then []
  else takeColumnsUpTo room s (s.length + 1) 0 s.length

/-- Fills a line up with blanks on the right. -/
def padRight (room : Nat) (line : List Char) : List Char :=
  line ++ List.replicate (room - width line) ' '

/-- A line at the left of its room; what does not fit gives way to an ellipsis. -/
def alignLeft (room : Nat) (line : List Char) : List Char :=
  if room < width line then padRight room (takeColumns (room - 1) line ++ ['…'])
  else padRight room line

/-- A line in the middle of its room, with the odd blank on the right. -/
def alignCenter (room : Nat) (line : List Char) : List Char :=
  let line := trimRight line
  padRight room (List.replicate ((room - width line) / 2) ' ' ++ line)

/-- How wide the widest line of a shown text is. -/
def measure (shown : List Char) : Nat :=
  ((lines (shown.filter (!movesCursor ·))).map width).foldl max 0

/-- What printing a text with markup gives, with a line feed behind each line. The console has room
for lines of any width. -/
def printed (markup : String) : Except MarkupError String :=
  (visible markup).map fun shown =>
    String.ofList ((printedLines shown).flatMap (· ++ ['\n']))

end NearMiss.Console
