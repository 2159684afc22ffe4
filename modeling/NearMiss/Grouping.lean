/-!
# Groupings

Values collected under keys. Keys keep the order in which they first came, and the values of a key
keep theirs.
-/

namespace NearMiss

/-- The entries of a list, each kept where it first occurs. -/
def distinct {α : Type} [DecidableEq α] (xs : List α) : List α :=
  xs.foldl (fun seen x => if x ∈ seen then seen else seen ++ [x]) []

/-- Values under keys, in order of first arrival. -/
structure Grouping (κ α : Type) where
  /-- Each key with its values. -/
  groups : List (κ × List α) := []
  deriving Repr

namespace Grouping

variable {κ α : Type} [DecidableEq κ]

/-- Adds a value to the group of its key in a list of groups. -/
def pushGroup (key : κ) (value : α) : List (κ × List α) → List (κ × List α)
  | [] => [(key, [value])]
  | (k, values) :: later =>
    if k = key then (k, values ++ [value]) :: later
    else (k, values) :: pushGroup key value later

/-- Adds a value under a key. -/
def push (g : Grouping κ α) (key : κ) (value : α) : Grouping κ α :=
  ⟨pushGroup key value g.groups⟩

/-- The grouping of a list of values by a key of each. -/
def ofList (key : α → κ) (values : List α) : Grouping κ α :=
  values.foldl (fun g value => g.push (key value) value) ⟨[]⟩

/-- The values under a key, or nothing if none has it. -/
def get? (g : Grouping κ α) (key : κ) : Option (List α) :=
  g.groups.lookup key

/-- The keys, each once, in order of first arrival. -/
def keys (g : Grouping κ α) : List κ :=
  g.groups.map Prod.fst

/-- The number of keys. -/
def size (g : Grouping κ α) : Nat :=
  g.groups.length

/-- Whether some value has the key. -/
def contains (g : Grouping κ α) (key : κ) : Bool :=
  (g.get? key).isSome

end Grouping

end NearMiss
