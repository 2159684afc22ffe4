/-!
# Splitting a text at a character

Every occurrence of the character ends a part, so a text with `n` of them has `n + 1` parts, some of
which may be empty.
-/

namespace NearMiss.Text

/-- The parts of a text between occurrences of a character. -/
def split (mark : Char) : List Char → List (List Char)
  | [] => [[]]
  | c :: rest =>
    if c = mark then [] :: split mark rest
    else
      match split mark rest with
      | [] => [[c]]
      | part :: later => (c :: part) :: later

/-- The parts of a string between occurrences of a character. -/
def splitString (mark : Char) (s : String) : List String :=
  (split mark s.toList).map String.ofList

/-- Whether a string ends with another. -/
def endsWith (s ending : String) : Bool :=
  ending.toList.isSuffixOf s.toList

end NearMiss.Text
