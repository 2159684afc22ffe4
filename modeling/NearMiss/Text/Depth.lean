/-!
# Paren depth

Nesting is measured by parens alone: opens minus closes. A text that closes more than it opened has
a negative depth, and nothing clamps it.
-/

namespace NearMiss.Text

/-- How one character changes the depth. -/
def turn (c : Char) : Int :=
  if c = '(' then 1 else if c = ')' then -1 else 0

/-- The opens of a text minus its closes. -/
def depth (s : List Char) : Int :=
  s.foldr (fun c rest => turn c + rest) 0

/-- The empty text ends where it begins. -/
@[simp]
theorem depth_nil : depth [] = 0 := rfl

/-- The depth of a text is that of its first character and of its rest. -/
@[simp]
theorem depth_cons (c : Char) (s : List Char) : depth (c :: s) = turn c + depth s :=
  rfl

/-- Depths of texts that follow each other add up. -/
@[simp]
theorem depth_append (s t : List Char) : depth (s ++ t) = depth s + depth t := by
  induction s with
  | nil => simp
  | cons c s ih => rw [List.cons_append, depth_cons, depth_cons, ih, Int.add_assoc]

end NearMiss.Text
