import NearMiss.Text.Blank
import NearMiss.Text.DecimalDigit
import NearMiss.Text.LowerCase
import NearMiss.Text.Split

/-!
# Styles

A style is described by words: attributes, each of which may be switched off by a `not` before it, a
colour, a background colour after the word `on`, and an address after the word `link`. The order of
the words does not count, so a style has one text that stands for all its descriptions.
-/

namespace NearMiss.Console

open Text

/-- The attributes of a style, in the order in which its text names them. -/
inductive Attribute where
  /-- Heavy letters. -/
  | bold
  /-- Faint letters. -/
  | dim
  /-- Slanted letters. -/
  | italic
  /-- A line below. -/
  | underline
  /-- Slow blinking. -/
  | blink
  /-- Fast blinking. -/
  | blink2
  /-- Exchanged colours. -/
  | reverse
  /-- Hidden letters. -/
  | conceal
  /-- A line through the letters. -/
  | strike
  /-- Two lines below. -/
  | underline2
  /-- A frame. -/
  | frame
  /-- A circle. -/
  | encircle
  /-- A line above. -/
  | overline
  deriving DecidableEq, Repr

namespace Attribute

/-- All attributes in order. -/
def all : List Attribute :=
  [.bold, .dim, .italic, .underline, .blink, .blink2, .reverse, .conceal, .strike, .underline2,
    .frame, .encircle, .overline]

/-- The name of an attribute. -/
def name : Attribute → String
  | .bold => "bold"
  | .dim => "dim"
  | .italic => "italic"
  | .underline => "underline"
  | .blink => "blink"
  | .blink2 => "blink2"
  | .reverse => "reverse"
  | .conceal => "conceal"
  | .strike => "strike"
  | .underline2 => "underline2"
  | .frame => "frame"
  | .encircle => "encircle"
  | .overline => "overline"

/-- The short name of an attribute, if it has one. -/
def shortName? : Attribute → Option String
  | .bold => some "b"
  | .dim => some "d"
  | .italic => some "i"
  | .underline => some "u"
  | .reverse => some "r"
  | .conceal => some "c"
  | .strike => some "s"
  | .underline2 => some "uu"
  | .overline => some "o"
  | _ => none

/-- The attribute of a name, which may be the short one. -/
def ofName? (word : String) : Option Attribute :=
  all.find? fun a => a.name = word || a.shortName? = some word

end Attribute

/-! ## Colours -/

/-- The colours that have a name. -/
def colorNames : List String := [
    "black", "red", "green", "yellow", "blue", "magenta", "cyan", "white", "bright_black",
    "bright_red", "bright_green", "bright_yellow", "bright_blue", "bright_magenta", "bright_cyan",
    "bright_white", "grey0", "gray0", "navy_blue", "dark_blue", "blue3", "blue1", "dark_green",
    "deep_sky_blue4", "dodger_blue3", "dodger_blue2", "green4", "spring_green4", "turquoise4",
    "deep_sky_blue3", "dodger_blue1", "green3", "spring_green3", "dark_cyan", "light_sea_green",
    "deep_sky_blue2", "deep_sky_blue1", "spring_green2", "cyan3", "dark_turquoise", "turquoise2",
    "green1", "spring_green1", "medium_spring_green", "cyan2", "cyan1", "dark_red", "deep_pink4",
    "purple4", "purple3", "blue_violet", "orange4", "grey37", "gray37", "medium_purple4",
    "slate_blue3", "royal_blue1", "chartreuse4", "dark_sea_green4", "pale_turquoise4", "steel_blue",
    "steel_blue3", "cornflower_blue", "chartreuse3", "cadet_blue", "sky_blue3", "steel_blue1",
    "pale_green3", "sea_green3", "aquamarine3", "medium_turquoise", "chartreuse2", "sea_green2",
    "sea_green1", "aquamarine1", "dark_slate_gray2", "dark_magenta", "dark_violet", "purple",
    "light_pink4", "plum4", "medium_purple3", "slate_blue1", "yellow4", "wheat4", "grey53",
    "gray53", "light_slate_grey", "light_slate_gray", "medium_purple", "light_slate_blue",
    "dark_olive_green3", "dark_sea_green", "light_sky_blue3", "sky_blue2", "dark_sea_green3",
    "dark_slate_gray3", "sky_blue1", "chartreuse1", "light_green", "pale_green1",
    "dark_slate_gray1", "red3", "medium_violet_red", "magenta3", "dark_orange3", "indian_red",
    "hot_pink3", "medium_orchid3", "medium_orchid", "medium_purple2", "dark_goldenrod",
    "light_salmon3", "rosy_brown", "grey63", "gray63", "medium_purple1", "gold3", "dark_khaki",
    "navajo_white3", "grey69", "gray69", "light_steel_blue3", "light_steel_blue", "yellow3",
    "dark_sea_green2", "light_cyan3", "light_sky_blue1", "green_yellow", "dark_olive_green2",
    "dark_sea_green1", "pale_turquoise1", "deep_pink3", "magenta2", "hot_pink2", "orchid",
    "medium_orchid1", "orange3", "light_pink3", "pink3", "plum3", "violet", "light_goldenrod3",
    "tan", "misty_rose3", "thistle3", "plum2", "khaki3", "light_goldenrod2", "light_yellow3",
    "grey84", "gray84", "light_steel_blue1", "yellow2", "dark_olive_green1", "honeydew2",
    "light_cyan1", "red1", "deep_pink2", "deep_pink1", "magenta1", "orange_red1", "indian_red1",
    "hot_pink", "dark_orange", "salmon1", "light_coral", "pale_violet_red1", "orchid2", "orchid1",
    "orange1", "sandy_brown", "light_salmon1", "light_pink1", "pink1", "plum1", "gold1",
    "navajo_white1", "misty_rose1", "thistle1", "yellow1", "light_goldenrod1", "khaki1", "wheat1",
    "cornsilk1", "grey100", "gray100", "grey3", "gray3", "grey7", "gray7", "grey11", "gray11",
    "grey15", "gray15", "grey19", "gray19", "grey23", "gray23", "grey27", "gray27", "grey30",
    "gray30", "grey35", "gray35", "grey39", "gray39", "grey42", "gray42", "grey46", "gray46",
    "grey50", "gray50", "grey54", "gray54", "grey58", "gray58", "grey62", "gray62", "grey66",
    "gray66", "grey70", "gray70", "grey74", "gray74", "grey78", "gray78", "grey82", "gray82",
    "grey85", "gray85", "grey89", "gray89", "grey93", "gray93"]

/-- What a word says when it is read as a colour. -/
inductive ColorReading where
  /-- It is a colour. -/
  | color
  /-- It is none. -/
  | unknown
  /-- It lists parts of a colour, one of which is no number. -/
  | broken
  deriving DecidableEq, Repr

/-- The text between an opening, as of `rgb(`, and the paren that ends the word. -/
def between? (opening : String) (word : List Char) : Option (List Char) :=
  if opening.toList.isPrefixOf word && word.getLast? = some ')' then
    some (word.drop opening.length).dropLast
  else none

/-- How many digits a part of a colour may have. -/
def maxPartDigits : Nat := 4300

/-- Reads the parts of a colour: red, green and blue, each up to 255. -/
def ofParts (inside : List Char) : ColorReading :=
  if inside.isEmpty || !inside.all fun c => isDecimalDigit c || c == ',' then .unknown
  else
    let parts := split ',' inside
    if parts.length != 3 then .unknown
    else if parts.any fun part => part.isEmpty || maxPartDigits < part.length then .broken
    else if parts.all fun part => numberOfDigits part ≤ 255 then .color
    else .unknown

/-- Reads a word in lower case as a colour: a name, six hexadecimal digits after a hash, a number up
to 255, or three parts. -/
def readColor (word : List Char) : ColorReading :=
  let isHex (c : Char) : Bool := c.isDigit || ('a' ≤ c && c ≤ 'f')
  let known (b : Bool) : ColorReading := if b then .color else .unknown
  let name := String.ofList word
  if name = "default" || name ∈ colorNames then .color
  else if word.head? = some '#' then known (word.length = 7 && word.tail.all isHex)
  else
    match between? "color(" word, between? "rgb(" word with
    | some digits, _ =>
      known (!digits.isEmpty && digits.length ≤ 3 && digits.all Char.isDigit &&
        numberOfDigits digits ≤ 255)
    | none, some inside => ofParts inside
    | none, none => .unknown

/-! ## Descriptions -/

/-- A style. -/
structure Style where
  /-- The attributes that are switched on or off, the latest first. -/
  attributes : List (Attribute × Bool) := []
  /-- The colour of the letters. -/
  color : Option String := none
  /-- The colour behind them. -/
  background : Option String := none
  /-- The address that the letters lead to. -/
  link : Option String := none
  deriving DecidableEq, Repr

/-- Why words describe no style. -/
inductive StyleError where
  /-- A word is not known. -/
  | unreadable
  /-- A part of a colour is no number. -/
  | brokenColor
  deriving DecidableEq, Repr

namespace Style

/-- The name of the colour that a word gives. -/
def colorName (word : List Char) : Except StyleError String :=
  let word := lower word
  match readColor word with
  | .color => .ok (String.ofList word)
  | .unknown => .error .unreadable
  | .broken => .error .brokenColor

/-- A style with what words add to it. -/
def addWords (style : Style) : List (List Char) → Except StyleError Style
  | [] => .ok style
  | word :: rest =>
    let name := String.ofList (lower word)
    match rest with
    | [] =>
      if name ∈ ["on", "not", "link"] then .error .unreadable
      else
        match Attribute.ofName? name with
        | some a => .ok { style with attributes := (a, true) :: style.attributes }
        | none => do
          let color ← colorName word
          return { style with color := some color }
    | next :: later =>
      if name = "on" then do
        let color ← colorName next
        addWords { style with background := some color } later
      else if name = "not" then
        match Attribute.ofName? (String.ofList next) with
        | some a => addWords { style with attributes := (a, false) :: style.attributes } later
        | none => .error .unreadable
      else if name = "link" then
        addWords { style with link := some (String.ofList next) } later
      else
        match Attribute.ofName? name with
        | some a =>
          addWords { style with attributes := (a, true) :: style.attributes } (next :: later)
        | none => do
          let color ← colorName word
          addWords { style with color := some color } (next :: later)

/-- The style that a text describes. The word `none` alone describes the plain one. -/
def parse (text : List Char) : Except StyleError Style :=
  if trim text = "none".toList then .ok {} else addWords {} (words text)

/-- The word for an attribute that is switched on or off. -/
def attributeText (style : Style) (a : Attribute) : Option String :=
  (style.attributes.lookup a).map fun on => if on then a.name else "not " ++ a.name

/-- The text that stands for a style. -/
def text (style : Style) : String :=
  let parts := Attribute.all.filterMap style.attributeText ++ style.color.toList ++
    (style.background.map ("on " ++ ·)).toList ++ (style.link.map ("link " ++ ·)).toList
  if parts.isEmpty then "none" else " ".intercalate parts

/-- The text that stands for all descriptions of the same style. A text that describes none stands
for itself in lower case. -/
def normalize (description : List Char) : Except StyleError String :=
  match parse description with
  | .ok style => .ok style.text
  | .error .unreadable => .ok (String.ofList (lower (trim description)))
  | .error .brokenColor => .error .brokenColor

end Style

end NearMiss.Console
