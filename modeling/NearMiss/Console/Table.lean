import NearMiss.Console.Layout

/-!
# Tables

A table has a row of headers, rows of cells and perhaps a title. It is drawn with lines around it,
between its columns and below its headers. Each column is as wide as its widest cell, and the title
stands centred over the whole. The console is taken to be wide enough for that.
-/

namespace NearMiss.Console

/-- A table. Its texts may hold markup. -/
structure Table where
  /-- The title, if it has one. -/
  title : Option String := none
  /-- The headers of the columns. -/
  headers : List String
  /-- The rows, each with one cell for each column. -/
  rows : List (List String)
  deriving DecidableEq, Repr

namespace Table

/-- The characters that a line of a table is drawn with. -/
structure Rule where
  /-- At the left edge. -/
  left : Char
  /-- Along the columns; blanks stand beside the cells of a row. -/
  fill : Char
  /-- Between columns. -/
  middle : Char
  /-- At the right edge. -/
  right : Char

/-- Above the headers. -/
def top : Rule := ⟨'┏', '━', '┳', '┓'⟩

/-- Beside the headers. -/
def beside : Rule := ⟨'┃', ' ', '┃', '┃'⟩

/-- Below the headers. -/
def below : Rule := ⟨'┡', '━', '╇', '┩'⟩

/-- Beside the cells. -/
def plain : Rule := ⟨'│', ' ', '│', '│'⟩

/-- At the bottom. -/
def bottom : Rule := ⟨'└', '─', '┴', '┘'⟩

/-- A line of a table: the contents of its columns between the characters of a rule, with one
filling character on both sides of each. -/
def Rule.draw (rule : Rule) (contents : List (List Char)) : List Char :=
  let framed := contents.map fun content => rule.fill :: content ++ [rule.fill]
  rule.left :: [rule.middle].intercalate framed ++ [rule.right]

/-- A line of a table without contents. -/
def Rule.stroke (rule : Rule) (widths : List Nat) : List Char :=
  rule.draw (widths.map fun w => List.replicate w rule.fill)

/-- The lines of a cell in a column of the given width. -/
def cellLines (room : Nat) (cell : List Char) : List (List Char) :=
  ((printedLines cell).flatMap (wrap room false)).map (alignLeft room)

/-- The given line of a cell, blank if it has fewer. -/
def lineOf (number room : Nat) (cell : List (List Char)) : List Char :=
  cell.getD number (List.replicate room ' ')

/-- The lines of a row: as many as its highest cell has. -/
def rowLines (rule : Rule) (widths : List Nat) (cells : List (List Char)) : List (List Char) :=
  let columns := List.zipWith cellLines widths cells
  let height := (columns.map List.length).foldl max 1
  (List.range height).map fun number =>
    rule.draw (List.zipWith (lineOf number) widths columns)

/-- The width of each column. The width of the console does not limit it. -/
def columnWidths (headers : List (List Char)) (rows : List (List (List Char))) : List Nat :=
  rows.foldl (fun widths row => List.zipWith max widths (row.map measure)) (headers.map measure)

/-- The lines of a title over a table of the given width. -/
def titleLines (room : Nat) (title : List Char) : List (List Char) :=
  ((printedLines title).flatMap (wrap room true)).map (alignCenter room)

/-- The lines of a table whose texts are shown as they are. -/
def drawnLines (title : Option (List Char)) (headers : List (List Char))
    (rows : List (List (List Char))) : List (List Char) :=
  let widths := columnWidths headers rows
  let room := (top.stroke widths).length
  ((title.map (titleLines room)).getD []) ++ [top.stroke widths] ++
    rowLines beside widths headers ++ [below.stroke widths] ++
    rows.flatMap (rowLines plain widths) ++ [bottom.stroke widths]

/-- The texts of a table in the order in which their tags are matched: column by column from the
header down, and then the title. -/
def texts (table : Table) : List String :=
  let column (i : Nat) := (table.headers :: table.rows).filterMap (·[i]?)
  (List.range table.headers.length).flatMap column ++ table.title.toList

/-- What printing a table gives on a console that has room for all of it. If the markup of one of
its texts is wrong, nothing is printed. -/
def printed (table : Table) : Except MarkupError String := do
  let _ ← table.texts.mapM matchTags
  let title ← table.title.mapM visible
  let headers ← table.headers.mapM visible
  let rows ← table.rows.mapM fun row => row.mapM visible
  return String.ofList ((drawnLines title headers rows).flatMap (· ++ ['\n']))

end Table

end NearMiss.Console
