/-!
# Blank characters

Which characters separate words, and the trimming and word splitting built on them. Text is handled
as its list of code points, so every count and offset of this library is a count of code points.
-/

namespace NearMiss.Text

/-- Blank characters: the ASCII blanks with the information separators `1C` to `1F`, the next-line
and no-break characters, and the space separators and line separators of Unicode. -/
def isBlank (c : Char) : Bool :=
  let n := c.toNat
  (0x09 ≤ n && n ≤ 0x0D) || (0x1C ≤ n && n ≤ 0x20) || n == 0x85 || n == 0xA0 || n == 0x1680 ||
    (0x2000 ≤ n && n ≤ 0x200A) || n == 0x2028 || n == 0x2029 || n == 0x202F || n == 0x205F ||
    n == 0x3000

/-- The text without its leading blanks. -/
def trimLeft (s : List Char) : List Char :=
  s.dropWhile isBlank

/-- The text without its trailing blanks. -/
def trimRight (s : List Char) : List Char :=
  (s.reverse.dropWhile isBlank).reverse

/-- The text without the blanks at its two ends. -/
def trim (s : List Char) : List Char :=
  trimRight (trimLeft s)

/-- The first word of a text that does not begin with a blank, and what follows the blanks after
that word. -/
def splitWord (s : List Char) : List Char × List Char :=
  (s.takeWhile (!isBlank ·), trimLeft (s.dropWhile (!isBlank ·)))

/-- The words of a text. -/
def words : List Char → List (List Char)
  | [] => []
  | c :: rest =>
    if isBlank c then words rest
    else if rest.head?.all isBlank then [c] :: words rest
    else
      match words rest with
      | [] => [[c]]
      | word :: later => (c :: word) :: later

/-- Trimming the front of a text that begins with a letter or mark changes nothing. -/
@[simp]
theorem trimLeft_cons_of_not_blank {c : Char} {s : List Char} (h : isBlank c = false) :
    trimLeft (c :: s) = c :: s := by
  simp [trimLeft, h]

/-- What is left after trimming the end does not end in a blank. -/
theorem isBlank_getLast?_trimRight (s : List Char) (c : Char)
    (h : (trimRight s).getLast? = some c) : isBlank c = false := by
  rw [trimRight, List.getLast?_reverse] at h
  have hne : s.reverse.dropWhile isBlank ≠ [] := by
    intro hnil
    simp [hnil] at h
  have hhead := List.head_dropWhile_not isBlank hne
  rw [List.head?_eq_some_head hne] at h
  cases h
  simpa using hhead

end NearMiss.Text
