import NearMiss.Settings.Sources
import NearMiss.Text.Utf8

/-!
# Surroundings

Settings are read from what the program finds around it: the environment, and the variable file if
there is one. The file is read anew each time, and its values may refer to the environment as it
then is.
-/

namespace NearMiss.Settings

/-- What settings are read from. -/
structure Surroundings where
  /-- The environment. -/
  environment : Environment := []
  /-- The octets of the variable file, if there is one. -/
  file : Option (List UInt8) := none
  deriving DecidableEq, Repr

/-- Why settings cannot be read. -/
inductive Failure where
  /-- The variable file is no text. -/
  | undecodable (error : Text.Utf8Error)
  /-- The variables give no settings. -/
  | refused (error : Error)
  deriving DecidableEq, Repr

/-- The wording of the failure. -/
def Failure.message : Failure → String
  | .undecodable error => error.message
  | .refused error => error.message

namespace Surroundings

/-- The variables of the variable file. -/
def fileVariables (around : Surroundings) : Except Text.Utf8Error Variables :=
  match around.file with
  | none => .ok []
  | some octets => (Text.decode octets).map (VariableFile.parse around.environment)

/-- The settings that are read. -/
def settings (around : Surroundings) : Except Failure Settings :=
  match around.fileVariables with
  | .error error => .error (.undecodable error)
  | .ok fileVariables =>
    match ofSources { environment := around.environment, fileVariables } with
    | .error error => .error (.refused error)
    | .ok settings => .ok settings

end Surroundings

end NearMiss.Settings
