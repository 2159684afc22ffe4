import NearMiss.Json.Basic
import NearMiss.Schema.Checked
import NearMiss.Schema.IntegerText

/-!
# Reading checked values from JSON

The expectations that records state of their fields. They are lenient where a value can be taken for
what is expected without doubt: texts and numbers for truth values, texts and whole decimals for
whole numbers.
-/

namespace NearMiss.Schema

variable {α : Type}

/-! ## Texts and lists -/

/-- Expects a string. -/
def text : Json → Checked String
  | .str s => .ok s
  | _ => .refuse .notString

/-- Expects a string that is not empty. -/
def nonemptyText (value : Json) : Checked String :=
  (text value).andThen fun s => if s = "" then .refuse .empty else .ok s

/-- Expects what the given reader expects, or `null`. -/
def nullable (read : Json → Checked α) : Json → Checked (Option α)
  | .null => .ok none
  | value => some <$> read value

/-- Checks the items of a list, the first of which has the given place. -/
def items (read : Json → Checked α) (place : Nat) : List Json → Checked (List α)
  | [] => .ok []
  | item :: later => List.cons <$> (read item).under (.index place) <*> items read (place + 1) later

/-- Expects a list of what the given reader expects. -/
def list (read : Json → Checked α) : Json → Checked (List α)
  | .arr values => items read 0 values
  | _ => .refuse .notList

/-! ## Truth values -/

/-- The truth value that a text stands for; the case of ASCII letters does not count. -/
def boolOfText? (s : String) : Option Bool :=
  let word := String.ofList (s.toList.map Char.toLower)
  if word ∈ ["1", "on", "t", "true", "y", "yes"] then some true
  else if word ∈ ["0", "off", "f", "false", "n", "no"] then some false
  else none

/-- The truth value that a whole number stands for. -/
def boolOfInt? (n : Int) : Option Bool :=
  if n = 1 then some true else if n = 0 then some false else none

/-- Whether a whole number fits a signed word of 64 bits. -/
def fitsWord (n : Int) : Bool :=
  -Int.pow 2 63 ≤ n && n < Int.pow 2 63

/-- Whether a whole number lies between the two ends of the signed words of 64 bits. -/
def fitsInside (n : Int) : Bool :=
  -Int.pow 2 63 < n && n < Int.pow 2 63

/-- Expects a truth value, or a text or number that stands for one. -/
def bool : Json → Checked Bool
  | .bool b => .ok b
  | .int n =>
    match boolOfInt? n with
    | some b => .ok b
    | none => .refuse (if fitsWord n then .unclearBool else .notBool)
  | .decimal d =>
    match d.toBinary64.toInt? with
    | none => .refuse .notBool
    | some n =>
      match boolOfInt? n with
      | some b => .ok b
      | none => .refuse (if fitsInside n then .unclearBool else .notBool)
  | .str s =>
    match boolOfText? s with
    | some b => .ok b
    | none => .refuse .unclearBool
  | _ => .refuse .notBool

/-! ## Whole numbers -/

/-- Expects a whole number, or a truth value, decimal or text that stands for one. A decimal that
does not fit a word is refused, and so is a text with too many digits. -/
def integer : Json → Checked Int
  | .int n => .ok n
  | .bool b => .ok (if b then 1 else 0)
  | .decimal d =>
    match d.toBinary64 with
    | .infinite => .refuse .notFinite
    | x =>
      match x.toInt? with
      | none => .refuse .fractional
      | some n => if fitsInside n then .ok n else .refuse .oversizedInteger
  | .nan => .refuse .notFinite
  | .infinity _ => .refuse .notFinite
  | .str s =>
    match Numeral.ofText s.toList with
    | .number n => .ok n
    | .oversized => .refuse .oversizedInteger
    | .malformed => .refuse .unreadableInteger
  | _ => .refuse .notInteger

/-- Expects a natural number of at least the given one. -/
def natFrom (least : Nat) (value : Json) : Checked Nat :=
  (integer value).andThen fun n => if n < least then .refuse (.below least) else .ok n.toNat

/-- Expects a natural number within two bounds. -/
def natBetween (least greatest : Nat) (value : Json) : Checked Nat :=
  (natFrom least value).andThen fun n =>
    if greatest < n then .refuse (.above greatest) else .ok n

/-! ## Records -/

/-- The fields of a record. -/
abbrev Fields := List (String × Json)

/-- Expects a record of the named kind, whose fields are then checked. -/
def record (kind : String) (read : Fields → Checked α) : Json → Checked α
  | .obj fields => read fields
  | _ => .refuse (.notRecord kind)

/-- The first of several spellings of a field that the record has, with its value. -/
def find? (fields : Fields) : List String → Option (String × Json)
  | [] => none
  | name :: others =>
    match fields.lookup name with
    | some value => some (name, value)
    | none => find? fields others

/-- Checks a field that must be there under one of its spellings, the preferred one first. A field
that is missing is reported under that one. -/
def required (fields : Fields) (name : String) (others : List String)
    (read : Json → Checked α) : Checked α :=
  match find? fields (name :: others) with
  | some (found, value) => (read value).under (.key found)
  | none => .refused [⟨[.key name], .missing⟩]

/-- Checks a field that may be missing and then has a default value. -/
def optional (fields : Fields) (name : String) (others : List String) (default : α)
    (read : Json → Checked α) : Checked α :=
  match find? fields (name :: others) with
  | some (found, value) => (read value).under (.key found)
  | none => .ok default

end NearMiss.Schema
