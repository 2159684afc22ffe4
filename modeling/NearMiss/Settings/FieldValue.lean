/-!
# Values of fields

A field of a template stands for a text, or for something about a text that the field asks for by
name: the class that the text belongs to, or an operation on it. Only texts can be laid out.
-/

namespace NearMiss

/-- What a field of a template stands for. -/
inductive FieldValue where
  /-- A text. -/
  | text (s : List Char)
  /-- The class of that name. -/
  | kind (name : String)
  /-- The operation of that name on a given text, or on any. -/
  | operation (name : String) (subject : Option (List Char))
  deriving DecidableEq, Repr

namespace FieldValue

/-- The operations on a text. -/
def operations : List String :=
  ["capitalize", "casefold", "center", "count", "encode", "endswith", "expandtabs", "find",
    "format", "format_map", "index", "isalnum", "isalpha", "isascii", "isdecimal", "isdigit",
    "isidentifier", "islower", "isnumeric", "isprintable", "isspace", "istitle", "isupper", "join",
    "ljust", "lower", "lstrip", "maketrans", "partition", "removeprefix", "removesuffix", "replace",
    "rfind", "rindex", "rjust", "rpartition", "rsplit", "rstrip", "split", "splitlines",
    "startswith", "strip", "swapcase", "title", "translate", "upper", "zfill"]

/-- What is said about the class of texts. -/
def aboutTexts : List String :=
  ["str(object='') -> str", "str(bytes_or_buffer[, encoding[, errors]]) -> str", "",
    "Create a new string object from the given object. If encoding or",
    "errors is specified, then the object must expose a data buffer",
    "that will be decoded using the given encoding and error handler.",
    "Otherwise, returns the result of object.__str__() (if defined)",
    "or repr(object).",
    "encoding defaults to sys.getdefaultencoding().",
    "errors defaults to 'strict'."]

/-- What is said about the class of classes. -/
def aboutKinds : List String :=
  ["type(object) -> the object's type", "type(name, bases, dict, **kwds) -> a new type"]

/-- The name of the class that a value belongs to. -/
def kindName : FieldValue → String
  | .text _ => "str"
  | .kind _ => "type"
  | .operation _ (some _) => "builtin_function_or_method"
  | .operation _ none => "method_descriptor"

/-- The value as it is called where something is missing from it. -/
def owner : FieldValue → String
  | .kind name => s!"type object '{name}'"
  | value => s!"'{value.kindName}' object"

/-- The value as it is called where it is asked for a place in it. -/
def holder : FieldValue → String
  | .kind name => s!"type '{name}'"
  | value => s!"'{value.kindName}' object"

/-- The text of some lines. -/
def ofLines (lines : List String) : FieldValue :=
  .text ("\n".intercalate lines).toList

/-- The part of a value that has a name, if there is one. -/
def part? (value : FieldValue) (name : String) : Option FieldValue :=
  match value, name with
  | value, "__class__" => some (.kind value.kindName)
  | .text _, "__doc__" => some (ofLines aboutTexts)
  | .text s, name => if operations.contains name then some (.operation name (some s)) else none
  | .kind "str", "__doc__" => some (ofLines aboutTexts)
  | .kind "type", "__doc__" => some (ofLines aboutKinds)
  | .kind name, "__name__" => some (ofLines [name])
  | .kind name, "__qualname__" => some (ofLines [name])
  | .kind _, "__module__" => some (ofLines ["builtins"])
  | .kind "str", name => if operations.contains name then some (.operation name none) else none
  | .operation name _, "__name__" => some (ofLines [name])
  | .operation name _, "__qualname__" => some (ofLines [s!"str.{name}"])
  | .operation _ (some s), "__self__" => some (.text s)
  | _, _ => none

/-- The text that shows a value. -/
def shown : FieldValue → List Char
  | .text s => s
  | .kind name => s!"<class '{name}'>".toList
  | .operation name (some _) => s!"<built-in method {name} of str object>".toList
  | .operation name none => s!"<method '{name}' of 'str' objects>".toList

end FieldValue

end NearMiss
