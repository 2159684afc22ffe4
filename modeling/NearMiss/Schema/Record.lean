import NearMiss.Diagnostic
import NearMiss.Schema.Reader

/-!
# Records as JSON objects

How parameters, methods, corpus entries, suggestions and diagnostics are read from JSON objects and
written as such. Some fields have two spellings. Both are read, the preferred one first; which of
them is written can be chosen. Fields that a record does not have are passed over.
-/

namespace NearMiss

open Schema

/-- The spelling in which fields are written. -/
inductive Spelling where
  /-- Words run together, such as `isPointer`: the spelling of the corpus format. -/
  | camel
  /-- Words joined by underscores, such as `is_pointer`. -/
  | snake
  deriving DecidableEq, Repr

/-- The spelling of a field that has two. -/
def Spelling.choose (camel snake : String) : Spelling → String
  | .camel => camel
  | .snake => snake

/-- Reads a parameter. -/
def Param.ofJson : Json → Checked Param :=
  record "Param" fun fields =>
    Param.mk <$> optional fields "name" [] none (nullable text)
      <*> required fields "type" [] text
      <*> optional fields "isVariadic" ["is_variadic"] false bool
      <*> optional fields "isPointer" ["is_pointer"] false bool

/-- Writes a parameter. -/
def Param.toJson (spelling : Spelling) (p : Param) : Json :=
  .obj [("name", match p.name with | some name => .str name | none => .null),
    ("type", .str p.type),
    (spelling.choose "isVariadic" "is_variadic", .bool p.isVariadic),
    (spelling.choose "isPointer" "is_pointer", .bool p.isPointer)]

/-- Reads the fields of a method. -/
def Method.ofFields (fields : Fields) : Checked Method :=
  Method.mk <$> required fields "signature" [] text
    <*> required fields "name" [] text
    <*> optional fields "params" [] [] (list Param.ofJson)
    <*> optional fields "returns" [] [] (list Param.ofJson)

/-- Reads a method. -/
def Method.ofJson : Json → Checked Method :=
  record "Method" Method.ofFields

/-- The fields of a method. -/
def Method.toFields (spelling : Spelling) (m : Method) : Fields :=
  [("signature", .str m.signature),
    ("name", .str m.name),
    ("params", .arr (m.params.map (Param.toJson spelling))),
    ("returns", .arr (m.returns.map (Param.toJson spelling)))]

/-- Writes a method. -/
def Method.toJson (spelling : Spelling) (m : Method) : Json :=
  .obj (m.toFields spelling)

/-- Reads a corpus entry. -/
def InterfaceMethod.ofJson : Json → Checked InterfaceMethod :=
  record "InterfaceMethod" fun fields =>
    InterfaceMethod.mk <$> Method.ofFields fields
      <*> required fields "interface" [] text
      <*> required fields "package" [] text

/-- Writes a corpus entry. -/
def InterfaceMethod.toJson (spelling : Spelling) (entry : InterfaceMethod) : Json :=
  .obj (entry.toMethod.toFields spelling ++
    [("interface", .str entry.interface), ("package", .str entry.package)])

/-- Reads an interface behind a suggestion. -/
def Source.ofJson : Json → Checked Source :=
  record "SuggestionSource" fun fields =>
    Source.mk <$> required fields "package" [] text
      <*> required fields "interface" [] text

/-- Writes an interface behind a suggestion. -/
def Source.toJson (s : Source) : Json :=
  .obj [("package", .str s.package), ("interface", .str s.interface)]

/-- Reads a suggestion. -/
def Suggestion.ofJson : Json → Checked Suggestion :=
  record "Suggestion" fun fields =>
    Suggestion.mk <$> required fields "targetName" ["target_name"] text
      <*> optional fields "sources" [] [] (list Source.ofJson)

/-- Writes a suggestion. -/
def Suggestion.toJson (spelling : Spelling) (s : Suggestion) : Json :=
  .obj [(spelling.choose "targetName" "target_name", .str s.targetName),
    ("sources", .arr (s.sources.map Source.toJson))]

/-- Reads a diagnostic. -/
def Diagnostic.ofJson : Json → Checked Diagnostic :=
  record "Diagnostic" fun fields =>
    Diagnostic.mk <$> required fields "line" [] (natFrom 0)
      <*> required fields "start" [] (natFrom 0)
      <*> required fields "end" [] (natFrom 0)
      <*> required fields "method_name" [] text
      <*> required fields "suggestion" [] Suggestion.ofJson
      <*> required fields "message" [] text
      <*> optional fields "code" [] Diagnostic.possibleRename text

/-- The fields of a diagnostic. -/
def Diagnostic.toFields (spelling : Spelling) (d : Diagnostic) : Fields :=
  [("line", .int d.line),
    ("start", .int d.start),
    ("end", .int d.stop),
    ("method_name", .str d.methodName),
    ("suggestion", d.suggestion.toJson spelling),
    ("message", .str d.message),
    ("code", .str d.code)]

/-- Writes a diagnostic. -/
def Diagnostic.toJson (spelling : Spelling) (d : Diagnostic) : Json :=
  .obj (d.toFields spelling)

end NearMiss
