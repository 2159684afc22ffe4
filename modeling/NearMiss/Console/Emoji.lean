import NearMiss.Console.EmojiTable
import NearMiss.Text.Blank
import NearMiss.Text.LowerCase

/-!
# Pictures in printed text

The name of a picture between two colons calls for that picture. The name may end in `-text` or
`-emoji`, which asks for the picture as a letter or in colour. Names that no picture has are printed
as they are, colons included.
-/

namespace NearMiss.Console

open Text

/-- A name without the given ending, if it has it. -/
def withoutEnding? (ending : String) (name : List Char) : Option (List Char) :=
  if ending.toList.isSuffixOf name then some (name.take (name.length - ending.length)) else none

/-- The picture that stands for what is between two colons. -/
def picture? (code : List Char) : Option (List Char) :=
  let find? (name : List Char) : Option (List Char) :=
    (pictures.lookup (String.ofList (lower name))).map String.toList
  match withoutEnding? "-emoji" code, withoutEnding? "-text" code with
  | some name, _ => (find? name).map (· ++ ['\ufe0f'])
  | none, some name => (find? name).map (· ++ ['\ufe0e'])
  | none, none => find? code

/-- What stands between a colon and the next one, without blanks, and the text behind it. -/
def code? (s : List Char) : Option (List Char × List Char) :=
  let isInside (c : Char) : Bool := c != ':' && !isBlank c
  match s.dropWhile isInside with
  | ':' :: rest => some (s.takeWhile isInside, rest)
  | _ => none

/-- A text with its pictures, at most as many characters as `fuel` allows. -/
def withPicturesUpTo : Nat → List Char → List Char
  | 0, s => s
  | fuel + 1, s =>
    match s with
    | [] => []
    | ':' :: rest =>
      match code? rest with
      | some (code, behind) =>
        (picture? code).getD (':' :: code ++ [':']) ++ withPicturesUpTo fuel behind
      | none => ':' :: withPicturesUpTo fuel rest
    | c :: rest => c :: withPicturesUpTo fuel rest

/-- A text with its pictures in place of their names. -/
def withPictures (s : List Char) : List Char :=
  withPicturesUpTo s.length s

end NearMiss.Console
