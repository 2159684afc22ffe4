import NearMiss.Json.Basic

/-!
# Writing JSON text

Values are laid out with two blanks for each level, one item or field to a line. Only quotes,
backslashes and control characters are escaped.
-/

namespace NearMiss.Json

/-- The lower-case hexadecimal digit of a number below sixteen. -/
def hexChar (n : Nat) : Char :=
  (Nat.toDigits 16 n).headD '0'

/-- A character as it is written in a string. -/
def escapeChar (c : Char) : List Char :=
  match c with
  | '"' => ['\\', '"']
  | '\\' => ['\\', '\\']
  | '\n' => ['\\', 'n']
  | '\r' => ['\\', 'r']
  | '\t' => ['\\', 't']
  | '\x08' => ['\\', 'b']
  | '\x0c' => ['\\', 'f']
  | c =>
    if c.toNat < 0x20 then
      ['\\', 'u', '0', '0', hexChar (c.toNat / 16), hexChar (c.toNat % 16)]
    else [c]

/-- A string in its quotes. -/
def quote (s : String) : List Char :=
  '"' :: (s.toList.flatMap escapeChar ++ ['"'])

/-- A new line that begins with the given number of blanks. -/
def newLine (indent : Nat) : List Char :=
  '\n' :: List.replicate indent ' '

/-- A decimal as its digits and a power of ten. -/
def renderDecimal (d : Decimal) : List Char :=
  (if d.negative then ['-'] else []) ++ (toString d.digits).toList ++ ['e'] ++
    (toString d.exponent).toList

mutual

/-- The text of a value whose first line stands at the given indentation. -/
def render (indent : Nat) : Json → List Char
  | .null => "null".toList
  | .bool true => "true".toList
  | .bool false => "false".toList
  | .int n => (toString n).toList
  | .decimal d => renderDecimal d
  | .nan => "NaN".toList
  | .infinity false => "Infinity".toList
  | .infinity true => "-Infinity".toList
  | .str s => quote s
  | .arr [] => ['[', ']']
  | .arr (item :: later) =>
    '[' :: newLine (indent + 2) ++ render (indent + 2) item ++ renderItems (indent + 2) later ++
      newLine indent ++ [']']
  | .obj [] => ['{', '}']
  | .obj ((name, field) :: later) =>
    '{' :: newLine (indent + 2) ++ quote name ++ [':', ' '] ++ render (indent + 2) field ++
      renderFields (indent + 2) later ++ newLine indent ++ ['}']

/-- The items after the first one, each with the comma before it. -/
def renderItems (indent : Nat) : List Json → List Char
  | [] => []
  | item :: later => ',' :: newLine indent ++ render indent item ++ renderItems indent later

/-- The fields after the first one, each with the comma before it. -/
def renderFields (indent : Nat) : List (String × Json) → List Char
  | [] => []
  | (name, field) :: later =>
    ',' :: newLine indent ++ quote name ++ [':', ' '] ++ render indent field ++
      renderFields indent later

end

/-- The text of a value. -/
def pretty (value : Json) : String :=
  String.ofList (render 0 value)

end NearMiss.Json
