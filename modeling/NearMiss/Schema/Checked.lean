/-!
# Checked values

The outcome of checking data against what is expected of it: a value, or every fault that was found,
each with the place where it was found. Checks of several parts are run side by side, so that the
faults of all parts are reported together and in order.
-/

namespace NearMiss.Schema

/-- One step of the way to a part of the data. -/
inductive Step where
  /-- The field of a record. -/
  | key (name : String)
  /-- The item of a list. -/
  | index (place : Nat)
  deriving DecidableEq, Repr

/-- What is wrong with a part of the data. -/
inductive Problem where
  /-- A field that must be there is missing. -/
  | missing
  /-- A string is expected. -/
  | notString
  /-- A list is expected. -/
  | notList
  /-- A record of the named kind is expected. -/
  | notRecord (kind : String)
  /-- A truth value is expected. -/
  | notBool
  /-- A truth value is expected and this text or number stands for none. -/
  | unclearBool
  /-- A whole number is expected. -/
  | notInteger
  /-- A whole number is expected and this number has a fraction. -/
  | fractional
  /-- A whole number is expected and this number is not finite. -/
  | notFinite
  /-- A whole number is expected and this text spells none. -/
  | unreadableInteger
  /-- A whole number is expected and this number is too large to be taken for one. -/
  | oversizedInteger
  /-- The number is below its least value. -/
  | below (least : Int)
  /-- The number is above its greatest value. -/
  | above (greatest : Int)
  /-- The text is empty and must not be. -/
  | empty
  /-- A file path is expected. -/
  | notPath
  deriving DecidableEq, Repr

/-- A fault and the way to it. -/
structure Fault where
  /-- The way from the whole to the faulty part. -/
  path : List Step
  /-- What is wrong there. -/
  problem : Problem
  deriving DecidableEq, Repr

/-- The text of a step. -/
def Step.text : Step → String
  | .key name => name
  | .index place => toString place

/-- The wording of a problem. -/
def Problem.message : Problem → String
  | .missing => "Field required"
  | .notString => "Input should be a valid string"
  | .notList => "Input should be a valid list"
  | .notRecord kind => s!"Input should be a valid dictionary or instance of {kind}"
  | .notBool => "Input should be a valid boolean"
  | .unclearBool => "Input should be a valid boolean, unable to interpret input"
  | .notInteger => "Input should be a valid integer"
  | .fractional => "Input should be a valid integer, got a number with a fractional part"
  | .notFinite => "Input should be a finite number"
  | .unreadableInteger => "Input should be a valid integer, unable to parse string as an integer"
  | .oversizedInteger => "Unable to parse input string as an integer, exceeded maximum size"
  | .below least => s!"Input should be greater than or equal to {least}"
  | .above greatest => s!"Input should be less than or equal to {greatest}"
  | .empty => "String should have at least 1 character"
  | .notPath => "Input is not a valid path for <class 'pathlib.Path'>"

/-- The wording of a fault: the way to it, its steps joined by dots, then the problem. -/
def Fault.message (f : Fault) : String :=
  ".".intercalate (f.path.map Step.text) ++ ": " ++ f.problem.message

/-- The wording of a list of faults. -/
def describe (faults : List Fault) : String :=
  "; ".intercalate (faults.map Fault.message)

/-- A value that passed its checks, or the faults that were found. -/
inductive Checked (α : Type) where
  /-- The value passed. -/
  | ok (value : α)
  /-- The value was refused. -/
  | refused (faults : List Fault)
  deriving Repr

namespace Checked

variable {α β : Type}

/-- Applies a function to a value that passed. -/
def map (f : α → β) : Checked α → Checked β
  | .ok a => .ok (f a)
  | .refused faults => .refused faults

/-- Applies a checked function to a checked value; if both were refused, the faults of the function
come first. -/
def seq (f : Checked (α → β)) (a : Checked α) : Checked β :=
  match f, a with
  | .ok f, .ok a => .ok (f a)
  | .ok _, .refused faults => .refused faults
  | .refused faults, .ok _ => .refused faults
  | .refused faults, .refused later => .refused (faults ++ later)

instance : Applicative Checked where
  pure := .ok
  map := map
  seq f a := seq f (a ())

/-- The faults, none if the value passed. -/
def faults : Checked α → List Fault
  | .ok _ => []
  | .refused faults => faults

/-- The value that passed, as an outcome that can be chained. -/
def toExcept : Checked α → Except (List Fault) α
  | .ok a => .ok a
  | .refused faults => .error faults

/-- The refusal of a whole for one problem. -/
def refuse (problem : Problem) : Checked α :=
  .refused [⟨[], problem⟩]

/-- The check of a part as a check of the whole: the way to each fault begins with the given
step. -/
def under (step : Step) : Checked α → Checked α
  | .ok a => .ok a
  | .refused faults => .refused (faults.map fun f => { f with path := step :: f.path })

/-- Goes on with a value that passed. -/
def andThen (a : Checked α) (next : α → Checked β) : Checked β :=
  match a with
  | .ok a => next a
  | .refused faults => .refused faults

end Checked

end NearMiss.Schema
