import NearMiss.Console.Emoji
import NearMiss.Console.Handler
import NearMiss.Console.Style
import NearMiss.Text.Blank

/-!
# Console markup

Printed text may hold tags in square brackets, which style what follows and are not shown. A tag
begins with a small letter or one of `#`, `/` and `@`, holds no opening bracket and ends at the next
closing one; all other brackets are shown as they are. A backslash in front of a tag makes it plain
text, and a tag that begins with a slash closes an earlier one. Behind an equals sign a tag may have
parameters. In the text between tags the names of pictures give way to the pictures.
-/

namespace NearMiss.Console

open Text

/-! ## Pieces of a text -/

/-- A piece of a text with markup. -/
inductive Piece where
  /-- Characters between tags. -/
  | plain (text : List Char)
  /-- A tag, without its brackets. -/
  | tag (body : List Char)
  deriving DecidableEq, Repr

/-- Whether a bracket before the character begins a tag. -/
def opensTag (c : Char) : Bool :=
  ('a' ≤ c && c ≤ 'z') || c == '#' || c == '/' || c == '@'

/-- The rest of the tag that begins at the bracket just read, and the text behind it. -/
def tagBody? (s : List Char) : Option (List Char × List Char) :=
  if s.head?.any opensTag then
    let isInside (c : Char) : Bool := c != '[' && c != ']'
    match s.dropWhile isInside with
    | ']' :: rest => some (s.takeWhile isInside, rest)
    | _ => none
  else none

/-- The plain piece with the given characters, if there are any. -/
def plainPiece (text : List Char) : List Piece :=
  if text.isEmpty then [] else [.plain text]

/-- The pieces of a text, at most as many characters as `fuel` allows. `held` is what has been read
of a plain piece, last character first. Backslashes before a tag and a tag that they make plain are
pieces of their own. -/
def piecesUpTo : Nat → List Char → List Char → List Piece
  | 0, held, _ => plainPiece held.reverse
  | fuel + 1, held, s =>
    match s with
    | [] => plainPiece held.reverse
    | '[' :: rest =>
      match tagBody? rest with
      | some (body, rest) => plainPiece held.reverse ++ .tag body :: piecesUpTo fuel [] rest
      | none => piecesUpTo fuel ('[' :: held) rest
    | '\\' :: rest =>
      let slashes := 1 + (rest.takeWhile (· == '\\')).length
      match rest.dropWhile (· == '\\') with
      | '[' :: rest =>
        match tagBody? rest with
        | some (body, rest) =>
          let piece := if slashes % 2 = 1 then .plain ('[' :: body ++ [']']) else .tag body
          plainPiece held.reverse ++ plainPiece (List.replicate (slashes / 2) '\\') ++
            piece :: piecesUpTo fuel [] rest
        | none => piecesUpTo fuel ('[' :: List.replicate (slashes - 1) '\\' ++ held) rest
      | rest => piecesUpTo fuel (List.replicate slashes '\\' ++ held) rest
    | c :: rest => piecesUpTo fuel (c :: held) rest

/-- The pieces of a text with markup. -/
def pieces (s : List Char) : List Piece :=
  piecesUpTo (s.length + 1) [] s

/-! ## Open tags -/

/-- What is wrong with markup. -/
inductive MarkupError where
  /-- A closing tag finds no tag to close. -/
  | nothingToClose
  /-- The parameters of a closed tag are no handler and no value. -/
  | malformedHandler
  /-- A part of a colour is no number. -/
  | brokenColor
  deriving DecidableEq, Repr

/-- The wording of what is wrong. -/
def MarkupError.message : MarkupError → String
  | .nothingToClose => "closing tag doesn't match any open tag"
  | .malformedHandler => "error parsing the parameters of a tag"
  | .brokenColor => "invalid literal for int() with base 10: ''"

/-- A tag that is open. -/
structure OpenTag where
  /-- The name under which it is closed. -/
  name : String
  /-- What stands behind its equals sign. -/
  parameters : Option (List Char)
  deriving DecidableEq, Repr

/-- The name under which a tag is matched. -/
def tagName (text : List Char) : Except MarkupError String :=
  match Style.normalize text with
  | .ok name => .ok name
  | .error _ => .error .brokenColor

/-- Checks a tag when its style is put to use. -/
def OpenTag.check (tag : OpenTag) : Except MarkupError Unit :=
  match tag.name.toList, tag.parameters with
  | '@' :: _, some parameters =>
    if parameters.isEmpty || Handler.isWellFormed parameters then .ok ()
    else .error .malformedHandler
  | _, _ => .ok ()

/-- Whether the style of a tag cannot be had, because a part of a colour is no number. -/
def OpenTag.isBroken (tag : OpenTag) : Bool :=
  let description :=
    match tag.parameters with
    | none => tag.name.toList
    | some parameters => tag.name.toList ++ ' ' :: parameters
  match Style.parse description with
  | .error .brokenColor => true
  | _ => false

/-- Removes the first tag with the given name, and gives it with the others. -/
def takeTag? (name : String) : List OpenTag → Option (OpenTag × List OpenTag)
  | [] => none
  | tag :: later =>
    if tag.name = name then some (tag, later)
    else (takeTag? name later).map fun (found, others) => (found, tag :: others)

/-- A tag as name and parameters. -/
def tagParts (body : List Char) : List Char × Option (List Char) :=
  match body.dropWhile (· != '=') with
  | [] => (body, none)
  | _ :: parameters => (body.takeWhile (· != '='), some parameters)

/-- The tags that are open and those that were closed, the latest first. -/
structure Tags where
  /-- The tags that are open. -/
  opened : List OpenTag := []
  /-- The tags that were closed. -/
  closed : List OpenTag := []

/-- The tags behind a tag. A closing tag closes the latest with its name, or simply the latest if it
has none. -/
def Tags.after (tags : Tags) (body : List Char) : Except MarkupError Tags := do
  match tagParts body with
  | ('/' :: name, _) =>
    let name := trim name
    let found :=
      if name.isEmpty then
        match tags.opened with
        | [] => Except.error .nothingToClose
        | tag :: others => .ok (tag, others)
      else
        match tagName name with
        | .error error => .error error
        | .ok name =>
          match takeTag? name tags.opened with
          | none => .error .nothingToClose
          | some found => .ok found
    let (tag, others) ← found
    tag.check
    return ⟨others, tag :: tags.closed⟩
  | (name, parameters) =>
    let name ← tagName name
    return { tags with opened := ⟨name, parameters⟩ :: tags.opened }

/-- Whether the style of one of the tags cannot be had. -/
def Tags.isBroken (tags : Tags) : Bool :=
  (tags.opened ++ tags.closed).any OpenTag.isBroken

/-! ## Shown text -/

/-- The characters that pieces show, behind the given tags, and the tags behind them. -/
def readPieces (tags : Tags) : List Piece → Except MarkupError (List Char × Tags)
  | [] => .ok ([], tags)
  | .plain text :: later =>
    (readPieces tags later).map fun (shown, tags) => (withPictures text ++ shown, tags)
  | .tag body :: later =>
    match tags.after body with
    | .error error => .error error
    | .ok tags => readPieces tags later

/-- The characters that a text with markup shows, and its tags, if those that are closed match those
that are open. -/
def matchTags (s : String) : Except MarkupError (List Char × Tags) :=
  readPieces {} (pieces s.toList)

/-- The characters that a text with markup shows. Styles are put to use only when all tags have been
matched. -/
def visible (s : String) : Except MarkupError (List Char) := do
  let (shown, tags) ← matchTags s
  if tags.isBroken then throw .brokenColor
  return shown

end NearMiss.Console
