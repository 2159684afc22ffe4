/-!
# Environments

Variables with their values, in the order in which they were first set. Setting a variable again
changes its value and leaves it where it is.
-/

namespace NearMiss

/-- Variables and their values, each name once. -/
abbrev Environment := List (String × String)

/-- Gives a name a value: in its place if the name is there, else behind all others. -/
def assign {α : Type} (name : String) (value : α) : List (String × α) → List (String × α)
  | [] => [(name, value)]
  | (other, old) :: later =>
    if other = name then (name, value) :: later else (other, old) :: assign name value later

end NearMiss
