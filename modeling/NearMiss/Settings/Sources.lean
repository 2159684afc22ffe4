import NearMiss.Json.Parser
import NearMiss.Schema.Reader
import NearMiss.Settings.Basic
import NearMiss.Settings.VariableFile
import NearMiss.Text.LowerCase

/-!
# Where settings come from

A setting is taken from the arguments if they give it, else from the environment, else from the
variable file, else it has its default. Variables are texts; the one that holds a list is written as
JSON. All settings are checked, and every fault is reported.
-/

namespace NearMiss.Settings

open Schema

/-- Where a variable stands. -/
inductive Origin where
  /-- In the environment. -/
  | environment
  /-- In the variable file. -/
  | variableFile
  deriving DecidableEq, Repr

/-- The name under which an origin is reported. -/
def Origin.label : Origin → String
  | .environment => "EnvSettingsSource"
  | .variableFile => "DotEnvSettingsSource"

/-- Why settings cannot be had. -/
inductive Error where
  /-- The variable that holds a list is no JSON. -/
  | unreadableList (origin : Origin)
  /-- Settings are not as they should be. -/
  | invalid (faults : List Fault)
  deriving DecidableEq, Repr

/-- The wording of the failure. -/
def Error.message : Error → String
  | .unreadableList origin =>
    s!"error parsing value for field \"excluded_dirs\" from source \"{origin.label}\""
  | .invalid faults => describe faults

/-- All that settings can be taken from. -/
structure Sources where
  /-- The arguments, by the names of the settings. -/
  arguments : Fields := []
  /-- The environment. -/
  environment : Environment := []
  /-- The variables of the variable file. -/
  fileVariables : Variables := []

/-- The names of the settings that are texts in a variable. -/
def textNames : List String :=
  ["corpus_path", "declaration_keyword", "min_params", "go_version", "archive_url_template",
    "head_archive_url", "request_timeout"]

/-- The name of the setting that is a list. -/
def listName : String := "excluded_dirs"

/-- A name without regard to the case of its letters. -/
def fold (name : String) : String :=
  String.ofList (Text.lower name.toList)

/-- The name of the variable of a setting as it is usually written. -/
def variableName (name : String) : String :=
  String.ofList (("conformance_" ++ name).toList.map Char.toUpper)

/-- The value of the variable of a setting. Of several spellings of its name the last one counts,
also if it stands there without a value. -/
def valueOf? (assigned : Variables) (name : String) : Option String :=
  (assigned.reverse.find? fun (key, _) => fold key = "conformance_" ++ name).bind (·.2)

/-- The settings that variables give. A list that is `null` counts as not given. -/
def ofVariables (origin : Origin) (assigned : Variables) : Except Error Fields := do
  let texts := textNames.filterMap fun name =>
    (valueOf? assigned name).map fun value => (name, Json.str value)
  match valueOf? assigned listName with
  | none => return texts
  | some value =>
    match Json.parse value with
    | .error _ => throw (.unreadableList origin)
    | .ok .null => return texts
    | .ok value => return texts ++ [(listName, value)]

/-- Expects a path. -/
def path : Json → Checked Path
  | .str s => .ok (Path.ofString s)
  | _ => .refuse .notPath

/-- Checks settings that are given by their names; the others have their defaults. -/
def ofFields (fields : Fields) : Checked Settings :=
  let default : Settings := {}
  Settings.mk <$> optional fields "corpus_path" [] none (nullable path)
    <*> optional fields "declaration_keyword" [] default.declarationKeyword nonemptyText
    <*> optional fields "min_params" [] default.minParams (natBetween 0 16)
    <*> optional fields "go_version" [] default.goVersion text
    <*> optional fields "archive_url_template" [] default.archiveUrlTemplate text
    <*> optional fields "head_archive_url" [] default.headArchiveUrl text
    <*> optional fields "request_timeout" [] default.requestTimeout (natBetween 1 600)
    <*> optional fields listName [] default.excludedDirs (list text)

/-- The settings that sources give: the first source that has a setting decides. -/
def ofSources (sources : Sources) : Except Error Settings := do
  let fromEnvironment ← ofVariables .environment
    (sources.environment.map fun (name, value) => (name, some value))
  let fromFile ← ofVariables .variableFile sources.fileVariables
  match ofFields (sources.arguments ++ fromEnvironment ++ fromFile) with
  | .ok settings => return settings
  | .refused faults => throw (.invalid faults)

end NearMiss.Settings
