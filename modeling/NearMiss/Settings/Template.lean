import NearMiss.Settings.FieldValue
import NearMiss.Text.DecimalDigit
import NearMiss.Text.Quoted

/-!
# Address templates

A template is text with fields in braces. The field `version` stands for a version; it may be padded
to a width and cut to a precision. A brace that is meant as such is written twice. A template is
cut into pieces from left to right, and the first piece that cannot be written decides what is
wrong with it.
-/

namespace NearMiss

/-- Why a template cannot be filled in. -/
inductive TemplateError where
  /-- A field has another name than the one that is known. -/
  | unknownName (name : String)
  /-- A field is given by its position. -/
  | noPosition (index : Nat)
  /-- A field asks for a part that a value does not have. -/
  | noAttribute (owner name : String)
  /-- A field asks for a character behind the end of the version. -/
  | noCharacter
  /-- A field asks for a character of the version, but not by a number. -/
  | notNumbered
  /-- A field asks for a place in a value that has none. -/
  | noPlaces (holder : String)
  /-- A field asks for a part of a value without naming it. -/
  | emptyStep
  /-- A bracket in a field has no end. -/
  | unclosedBracket
  /-- Something other than a further part follows a bracket. -/
  | afterBracket
  /-- An opening brace ends the template. -/
  | loneOpen
  /-- A closing brace stands alone. -/
  | loneClose
  /-- A field has no end. -/
  | unclosedField
  /-- A field name holds an opening brace. -/
  | braceInName
  /-- The layout of a field has no end. -/
  | unclosedLayout
  /-- The template ends where a conversion is announced. -/
  | missingConversion
  /-- Something other than a layout follows a conversion. -/
  | afterConversion
  /-- There is no such conversion. -/
  | unknownConversion (letter : Char)
  /-- A number in the template does not fit a word. -/
  | oversizedNumber
  /-- A layout asks for a sign. -/
  | signInLayout
  /-- A layout asks for a blank in place of a sign. -/
  | blankInLayout
  /-- A layout asks for zeros without a sign. -/
  | plainZero
  /-- A layout asks for padding after the sign. -/
  | alignAfterSign
  /-- A layout asks for an alternate form. -/
  | alternateForm
  /-- A layout asks for digit grouping, but not of a kind of number that can be grouped so. -/
  | groupingInLayout (mark kind : Char)
  /-- A layout asks for two kinds of digit grouping. -/
  | twoGroupings
  /-- A precision has no digits. -/
  | missingPrecision
  /-- The letter that ends a layout is not for texts. -/
  | unknownLayout (letter : Char)
  /-- A layout has more than one character left over. -/
  | malformedLayout (layout : String)
  /-- A layout is given for a value that is no text. -/
  | noLayout (kind : String)
  /-- Layouts hold fields that hold layouts with fields. -/
  | nestedTooDeep
  /-- A layout asks for more columns than can be written. -/
  | tooWide
  deriving DecidableEq, Repr

/-- A letter of a template as it is shown in a message: controls and characters past ASCII by their
numbers. `last` is the greatest number that is shown as it is. -/
def TemplateError.letter (last : Nat) (c : Char) : String :=
  if 32 < c.toNat && c.toNat ≤ last then c.toString
  else "\\x" ++ String.ofList (Nat.toDigits 16 c.toNat)

/-- The wording of what is wrong with a template. -/
def TemplateError.message : TemplateError → String
  | .unknownName name => Text.quoted name
  | .noPosition index => s!"Replacement index {index} out of range for positional args tuple"
  | .noAttribute owner name => s!"{owner} has no attribute '{name}'"
  | .noCharacter => "string index out of range"
  | .notNumbered => "string indices must be integers, not 'str'"
  | .noPlaces holder => s!"{holder} is not subscriptable"
  | .emptyStep => "Empty attribute in format string"
  | .unclosedBracket => "Missing ']' in format string"
  | .afterBracket => "Only '.' or '[' may follow ']' in format field specifier"
  | .loneOpen => "Single '\x7b' encountered in format string"
  | .loneClose => "Single '\x7d' encountered in format string"
  | .unclosedField => "expected '\x7d' before end of string"
  | .braceInName => "unexpected '\x7b' in field name"
  | .unclosedLayout => "unmatched '\x7b' in format spec"
  | .missingConversion => "end of string while looking for conversion specifier"
  | .afterConversion => "expected ':' after conversion specifier"
  | .unknownConversion mark => s!"Unknown conversion specifier {letter 126 mark}"
  | .oversizedNumber => "Too many decimal digits in format string"
  | .signInLayout => "Sign not allowed in string format specifier"
  | .blankInLayout => "Space not allowed in string format specifier"
  | .plainZero => "Negative zero coercion (z) not allowed in string format specifier"
  | .alignAfterSign => "'=' alignment not allowed in string format specifier"
  | .alternateForm => "Alternate form (#) not allowed in string format specifier"
  | .groupingInLayout mark kind => s!"Cannot specify '{mark}' with '{letter 127 kind}'."
  | .twoGroupings => "Cannot specify both ',' and '_'."
  | .missingPrecision => "Format specifier missing precision"
  | .unknownLayout kind => s!"Unknown format code '{letter 127 kind}' for object of type 'str'"
  | .malformedLayout layout => s!"Invalid format specifier '{layout}' for object of type 'str'"
  | .noLayout kind => s!"unsupported format string passed to {kind}.__format__"
  | .nestedTooDeep => "Max string recursion exceeded"
  | .tooWide => ""

namespace Template

/-- A field: its name as written, the conversion if one is asked for, and its layout. -/
structure Field where
  /-- The name and what is asked of it. -/
  name : List Char
  /-- The conversion before layout. -/
  conversion : Option Char
  /-- The layout, empty if none is asked for. -/
  layout : List Char
  deriving DecidableEq, Repr

/-- A piece of a template. -/
inductive Piece where
  /-- A character that stands for itself. -/
  | literal (c : Char)
  /-- A field to be filled in. -/
  | field (f : Field)
  /-- What is wrong with the template from here on. -/
  | flaw (error : TemplateError)
  deriving DecidableEq, Repr

/-! ## Cutting a template into pieces -/

/-- The name of a field, the mark that ends it and the text after that mark. Inside square brackets
no mark counts. -/
def fieldName (bracketed : Bool) : List Char → Except TemplateError (List Char × Char × List Char)
  | [] => .error .unclosedField
  | c :: rest =>
    if !bracketed && c = '{' then .error .braceInName
    else if !bracketed && (c = '}' || c = ':' || c = '!') then .ok ([], c, rest)
    else do
      let inside := if c = '[' then true else if c = ']' then false else bracketed
      let (name, mark, rest) ← fieldName inside rest
      return (c :: name, mark, rest)

/-- The layout up to the brace that closes its field, and the text after that brace, where `inner`
braces are open inside the layout. -/
def layoutText (inner : Nat) : List Char → Except TemplateError (List Char × List Char)
  | [] => .error .unclosedLayout
  | c :: rest =>
    if c = '}' && inner = 0 then .ok ([], rest)
    else do
      let inner := if c = '{' then inner + 1 else if c = '}' then inner - 1 else inner
      let (layout, rest) ← layoutText inner rest
      return (c :: layout, rest)

/-- The conversion and layout of a field after the mark that ended its name. -/
def fieldRest (name : List Char) (mark : Char) (s : List Char) :
    Except TemplateError (Field × List Char) :=
  if mark = '}' then .ok (⟨name, none, []⟩, s)
  else if mark = '!' then
    match s with
    | [] => .error .missingConversion
    | [_] => .error .unclosedLayout
    | letter :: '}' :: rest => .ok (⟨name, some letter, []⟩, rest)
    | letter :: ':' :: rest => do
      let (layout, rest) ← layoutText 0 rest
      return (⟨name, some letter, layout⟩, rest)
    | _ => .error .afterConversion
  else do
    let (layout, rest) ← layoutText 0 s
    return (⟨name, none, layout⟩, rest)

/-- The field after an opening brace, and the text after its closing brace. -/
def fieldAt (s : List Char) : Except TemplateError (Field × List Char) := do
  let (name, mark, rest) ← fieldName false s
  fieldRest name mark rest

/-- The pieces of a text, at most as many as `fuel` allows. -/
def piecesUpTo : Nat → List Char → List Piece
  | 0, _ => []
  | fuel + 1, s =>
    match s with
    | [] => []
    | '{' :: '{' :: rest => .literal '{' :: piecesUpTo fuel rest
    | '}' :: '}' :: rest => .literal '}' :: piecesUpTo fuel rest
    | ['{'] => [.flaw .loneOpen]
    | '}' :: _ => [.flaw .loneClose]
    | '{' :: rest =>
      match fieldAt rest with
      | .error error => [.flaw error]
      | .ok (f, rest) => .field f :: piecesUpTo fuel rest
    | c :: rest => .literal c :: piecesUpTo fuel rest

/-- The pieces of a template. Each takes up at least one character. -/
def pieces (s : List Char) : List Piece :=
  piecesUpTo s.length s

/-! ## Layout of a text -/

/-- Where a text stands in a wider column. -/
inductive Align where
  /-- At the left. -/
  | left
  /-- At the right. -/
  | right
  /-- In the middle, with the odd blank at the right. -/
  | center
  deriving DecidableEq, Repr

/-- A layout: the character that fills up, where the text stands, how wide it is at least and how
long at most. -/
structure Layout where
  /-- The filling character. -/
  fill : Char
  /-- Where the text stands. -/
  align : Align
  /-- The least width. -/
  width : Nat
  /-- The greatest length of the text. -/
  precision : Option Nat
  deriving DecidableEq, Repr

/-- The alignment that a mark asks for; the mark for padding after a sign is no alignment of a
text. -/
def Align.ofMark? : Char → Option (Option Align)
  | '<' => some (some .left)
  | '>' => some (some .right)
  | '^' => some (some .center)
  | '=' => some none
  | _ => none

/-- The greatest number that a template may hold. -/
def maxNumber : Nat := Nat.pow 2 63 - 1

/-- The number of leading digits, with the text after them; nothing if there are none. `found` is
the number of the digits read so far. -/
def leadingNumber (found : Option Nat) :
    List Char → Except TemplateError (Option Nat × List Char)
  | [] => .ok (found, [])
  | c :: rest =>
    match Text.digitValue? c with
    | none => .ok (found, c :: rest)
    | some digit =>
      let value := found.getD 0 * 10 + digit
      if maxNumber < value then .error .oversizedNumber else leadingNumber (some value) rest

/-- The number that a text spells, if it is one. -/
def number? (s : List Char) : Except TemplateError (Option Nat) := do
  match ← leadingNumber none s with
  | (found, []) => return found
  | _ => return none

/-- All that a layout may ask for, much of it only of numbers. -/
structure LayoutText where
  /-- The filling character, if one is given. -/
  fill : Option Char
  /-- Where the text stands; nothing if it is to be padded after a sign. -/
  align : Option Align
  /-- The mark that asks for a sign. -/
  sign : Option Char
  /-- Whether zeros are to be without a sign. -/
  plainZero : Bool
  /-- Whether the alternate form is asked for. -/
  alternate : Bool
  /-- The least width. -/
  width : Option Nat
  /-- The mark that groups digits. -/
  grouping : Option Char
  /-- The greatest length of the text. -/
  precision : Option Nat
  /-- The letter for the kind of value. -/
  kind : Char
  deriving DecidableEq, Repr

/-- The first of the given marks at the front of a text, and the text after it. -/
def takeMark (marks : List Char) : List Char → Option Char × List Char
  | [] => (none, [])
  | c :: rest => if marks.contains c then (some c, rest) else (none, c :: rest)

/-- The mark that groups digits, of which there may be one. -/
def takeGrouping (s : List Char) : Except TemplateError (Option Char × List Char) :=
  match s with
  | ',' :: '_' :: _ => .error .twoGroupings
  | ',' :: rest => .ok (some ',', rest)
  | '_' :: ',' :: _ => .error .twoGroupings
  | '_' :: rest => .ok (some '_', rest)
  | s => .ok (none, s)

/-- The precision after a point, if there is one. -/
def takePrecision (s : List Char) : Except TemplateError (Option Nat × List Char) :=
  match s with
  | '.' :: rest => do
    match ← leadingNumber none rest with
    | (none, _) => throw .missingPrecision
    | found => return found
  | s => .ok (none, s)

/-- Whether digits may be grouped by a mark in numbers of a kind. -/
def canGroup (mark kind : Char) : Bool :=
  "defgEG%F".toList.contains kind || (mark == '_' && "boxX".toList.contains kind)

/-- Reads what follows fill and alignment in a layout; `whole` is the layout itself. -/
def LayoutText.afterAlign (whole : List Char) (fill : Option Char) (align : Option Align)
    (s : List Char) : Except TemplateError LayoutText := do
  let (sign, s) := takeMark ['+', '-', ' '] s
  let (plain, s) := takeMark ['z'] s
  let (alternate, s) := takeMark ['#'] s
  let (fill, s) :=
    match fill, s with
    | none, '0' :: rest => (some '0', rest)
    | fill, s => (fill, s)
  let (width, s) ← leadingNumber none s
  let (grouping, s) ← takeGrouping s
  let (precision, s) ← takePrecision s
  let kind ←
    match s with
    | [] => pure 's'
    | [kind] => pure kind
    | _ => throw (.malformedLayout (String.ofList whole))
  match grouping with
  | some mark => if !canGroup mark kind then throw (.groupingInLayout mark kind)
  | none => pure ()
  return ⟨fill, align, sign, plain.isSome, alternate.isSome, width, grouping, precision, kind⟩

/-- Reads a layout text. -/
def LayoutText.parse (s : List Char) : Except TemplateError LayoutText :=
  match s with
  | fill :: mark :: rest =>
    match Align.ofMark? mark with
    | some align => afterAlign s (some fill) align rest
    | none =>
      match Align.ofMark? fill with
      | some align => afterAlign s none align (mark :: rest)
      | none => afterAlign s none (some .left) s
  | [mark] =>
    match Align.ofMark? mark with
    | some align => afterAlign s none align []
    | none => afterAlign s none (some .left) s
  | [] => afterAlign s none (some .left) s

/-- The layout of a text that a layout text asks for, if it asks for nothing that only numbers
have. -/
def LayoutText.forText (layout : LayoutText) : Except TemplateError Layout := do
  if layout.kind != 's' then throw (.unknownLayout layout.kind)
  match layout.sign with
  | some ' ' => throw .blankInLayout
  | some _ => throw .signInLayout
  | none => pure ()
  if layout.plainZero then throw .plainZero
  if layout.alternate then throw .alternateForm
  match layout.align with
  | none => throw .alignAfterSign
  | some align => return ⟨layout.fill.getD ' ', align, layout.width.getD 0, layout.precision⟩

/-- Reads a layout. -/
def Layout.parse (s : List Char) : Except TemplateError Layout := do
  (← LayoutText.parse s).forText

/-- The number of columns that a laid out text may have. -/
def maxColumns : Nat := Nat.pow 2 36

/-- Lays a text out. -/
def Layout.apply (layout : Layout) (s : List Char) : Except TemplateError (List Char) :=
  let kept := match layout.precision with | some n => s.take n | none => s
  let spare := layout.width - kept.length
  let before :=
    match layout.align with
    | .left => 0
    | .right => spare
    | .center => spare / 2
  if maxColumns < layout.width then .error .tooWide
  else .ok (List.replicate before layout.fill ++ kept ++
    List.replicate (spare - before) layout.fill)

/-! ## Filling in -/

/-- Whether a character begins a step to a part of a value. -/
def beginsStep (c : Char) : Bool :=
  c == '.' || c == '['

/-- The character of a value that a key in brackets asks for. Only texts have characters. -/
def characterAt (value : FieldValue) (key : List Char) : Except TemplateError FieldValue := do
  if key.isEmpty then throw .emptyStep
  let place ← number? key
  match value, place with
  | .text s, some place =>
    match s[place]? with
    | some c => return .text [c]
    | none => throw .noCharacter
  | .text _, none => throw .notNumbered
  | value, _ => throw (.noPlaces value.holder)

/-- The part of a value with a name. -/
def partNamed (value : FieldValue) (name : List Char) : Except TemplateError FieldValue :=
  if name.isEmpty then .error .emptyStep
  else
    match value.part? (String.ofList name) with
    | some part => .ok part
    | none => .error (.noAttribute value.owner (String.ofList name))

/-- The part of a value that steps lead to, at most as many as `fuel` allows. -/
def partUpTo : Nat → FieldValue → List Char → Except TemplateError FieldValue
  | 0, value, _ => .ok value
  | fuel + 1, value, steps =>
    match steps with
    | [] => .ok value
    | '.' :: rest => do
      let part ← partNamed value (rest.takeWhile (!beginsStep ·))
      partUpTo fuel part (rest.dropWhile (!beginsStep ·))
    | '[' :: rest =>
      match rest.dropWhile (· != ']') with
      | [] => .error .unclosedBracket
      | _ :: later => do
        let part ← characterAt value (rest.takeWhile (· != ']'))
        partUpTo fuel part later
    | _ => .error .afterBracket

/-- The value that a field name stands for. -/
def valueOf (version : List Char) (name : List Char) : Except TemplateError FieldValue := do
  let first := name.takeWhile (!beginsStep ·)
  if first.isEmpty then throw (.noPosition 0)
  match ← number? first with
  | some position => throw (.noPosition position)
  | none => pure ()
  if String.ofList first != "version" then throw (.unknownName (String.ofList first))
  let steps := name.dropWhile (!beginsStep ·)
  partUpTo steps.length (.text version) steps

/-- The quoted form that a value has in a message. A value that is no text needs no quotes. -/
def quotedBy (quote : String → String) : FieldValue → FieldValue
  | .text s => .text (quote (String.ofList s)).toList
  | value => .text value.shown

/-- The value after a conversion: shown in quotes, or as it is. -/
def convert (value : FieldValue) : Option Char → Except TemplateError FieldValue
  | none => .ok value
  | some 's' => .ok (.text value.shown)
  | some 'r' => .ok (quotedBy Text.quoted value)
  | some 'a' => .ok (quotedBy Text.quotedAscii value)
  | some letter => .error (.unknownConversion letter)

/-- Lays a value out. A value that is no text is shown as it is. -/
def layOut (layout : List Char) : FieldValue → Except TemplateError (List Char)
  | .text s => do (← Layout.parse layout).apply s
  | value => if layout.isEmpty then .ok value.shown else .error (.noLayout value.kindName)

/-- Fills pieces in, with fields inside layouts filled in by `expand`. -/
def fill (version : List Char) (expand : List Char → Except TemplateError (List Char)) :
    List Piece → Except TemplateError (List Char)
  | [] => .ok []
  | .literal c :: later => do
    let rest ← fill version expand later
    return c :: rest
  | .flaw error :: _ => .error error
  | .field f :: later => do
    let value ← valueOf version f.name
    let value ← convert value f.conversion
    let layout ← if f.layout.contains '{' then expand f.layout else pure f.layout
    let shown ← layOut layout value
    let rest ← fill version expand later
    return shown ++ rest

/-- Fills a text in, with layouts nested as deep as the first argument allows. -/
def expand (version : List Char) : Nat → List Char → Except TemplateError (List Char)
  | 0, _ => .error .nestedTooDeep
  | depth + 1, s => fill version (expand version depth) (pieces s)

/-- Fills a version into a template. Layouts may hold fields, but not layouts of their own with
fields in them. -/
def render (template version : String) : Except TemplateError String :=
  String.ofList <$> expand version.toList 2 template.toList

end Template

end NearMiss
