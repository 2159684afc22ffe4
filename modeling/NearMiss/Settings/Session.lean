import NearMiss.Settings.Surroundings

/-!
# Sessions

Within a session settings are read once and kept. They stay as they are while the surroundings
change, until a reload is asked for. A reading that fails keeps nothing.
-/

namespace NearMiss.Settings

/-- Settings that were read, with the number of earlier successful readings. -/
structure Reading where
  /-- How many readings succeeded before this one. -/
  number : Nat
  /-- The settings that were read. -/
  settings : Settings
  deriving DecidableEq, Repr

/-- The state of a session: the surroundings as they are now, and what is kept. -/
structure Session extends Surroundings where
  /-- The reading that is kept. -/
  kept : Option Reading := none
  /-- How many readings succeeded so far. -/
  readings : Nat := 0

namespace Session

/-- Gives a variable of the environment a value. -/
def setVariable (session : Session) (name value : String) : Session :=
  { session with environment := assign name value session.environment }

/-- Removes a variable from the environment. -/
def unsetVariable (session : Session) (name : String) : Session :=
  { session with environment := session.environment.filter (·.1 != name) }

/-- Gives the variable file another content, or takes it away. -/
def setFile (session : Session) (content : Option (List UInt8)) : Session :=
  { session with file := content }

/-- Reads the settings from the surroundings as they are now, and keeps them if that succeeds. -/
def read (session : Session) : Except Failure Reading × Session :=
  match session.settings with
  | .error failure => (.error failure, session)
  | .ok settings =>
    let reading := ⟨session.readings, settings⟩
    (.ok reading, { session with kept := some reading, readings := session.readings + 1 })

/-- The settings that are kept; if there are none, they are read. -/
def get (session : Session) : Except Failure Reading × Session :=
  match session.kept with
  | some reading => (.ok reading, session)
  | none => session.read

/-- Forgets what is kept and reads the settings again. -/
def reload (session : Session) : Except Failure Reading × Session :=
  { session with kept := none }.read

end Session

end NearMiss.Settings
