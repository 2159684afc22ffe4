import NearMiss.Proofs.Cut

/-!
# Walks by position

A walk over a text can be told by positions instead of by what has been passed: the depth at a
position is the depth of the text before it. A property of the depth that holds where a walk begins
and that no passed character destroys holds at every position of the passed text. A walk that looks
for the paren that opens a group therefore stays at depth zero or below until it finds it, and a
walk that looks for the paren that closes the group stays at depth one or above.
-/

namespace NearMiss.Text

/-- The depth at the next position differs by the turn of the character between. -/
theorem depth_take_succ {s : List Char} {k : Nat} {c : Char} (hc : s[k]? = some c) :
    depth (s.take (k + 1)) = depth (s.take k) + turn c := by
  rw [List.take_add_one, hc, depth_append]
  simp

/-- The depth behind a position adds up from there. -/
theorem depth_take_add (s : List Char) (m n : Nat) :
    depth (s.take (m + n)) = depth (s.take m) + depth ((s.drop m).take n) := by
  rw [List.take_add, depth_append]

/-- The depth counts the parens that are opened against those that are closed. -/
theorem depth_eq_count_sub_count (s : List Char) :
    depth s = (s.count '(' : Int) - (s.count ')' : Int) := by
  induction s with
  | nil => rfl
  | cons c s ih =>
    rw [depth_cons, ih]
    by_cases hopen : c = '('
    · subst hopen
      rw [turn_open, List.count_cons_self, List.count_cons_of_ne (by decide)]
      omega
    · by_cases hclose : c = ')'
      · subst hclose
        rw [turn_close, List.count_cons_self, List.count_cons_of_ne (by decide)]
        omega
      · rw [turn_eq_zero hopen hclose, List.count_cons_of_ne hopen, List.count_cons_of_ne hclose]
        omega

/-- A walk passes over a text exactly if it stops at none of its positions. -/
theorem passes_iff_forall_getElem? {stop : Int → Char → Bool} {level : Int} {s : List Char} :
    Passes stop level s ↔
      ∀ k c, s[k]? = some c → stop (level + depth (s.take k)) c = false := by
  constructor
  · intro h k c hc
    obtain ⟨hk, rfl⟩ := List.getElem?_eq_some_iff.mp hc
    exact h (s.take k) s[k] (s.drop (k + 1)) (by simp)
  · rintro h before c after rfl
    simpa using h before.length c (by simp)

/-- What holds of the depth where a walk begins, and is kept by every character at which the walk
does not stop, holds at every position that the walk passes. -/
theorem Passes.depth_take {P : Int → Prop} {stop : Int → Char → Bool} {level : Int}
    {s : List Char} (h : Passes stop level s) (hlevel : P level)
    (hstep : ∀ l c, P l → stop l c = false → P (l + turn c)) (k : Nat) :
    P (level + depth (s.take k)) := by
  induction k with
  | zero => simpa using hlevel
  | succ k ih =>
    cases hc : s[k]? with
    | none =>
      -- Behind the end of the text nothing is added any more.
      rw [List.take_add_one, hc, Option.toList_none, List.append_nil]
      exact ih
    | some c =>
      rw [depth_take_succ hc, ← Int.add_assoc]
      exact hstep _ c ih (passes_iff_forall_getElem?.mp h k c hc)

/-- Until the paren that opens a group is found, the depth is zero or below. -/
theorem Passes.depth_take_nonpos {s : List Char} (h : Passes (looksFor '(' 0) 0 s) (k : Nat) :
    depth (s.take k) ≤ 0 := by
  have hstep : ∀ (l : Int) (c : Char), l ≤ 0 → looksFor '(' 0 l c = false → l + turn c ≤ 0 := by
    intro l c hl hpass
    rw [looksFor_eq_false] at hpass
    unfold turn
    split
    · next hopen =>
      have hne : l ≠ 0 := fun hzero => hpass ⟨hopen, hzero⟩
      omega
    · split <;> omega
  simpa using h.depth_take (P := (· ≤ 0)) (Int.le_refl 0) hstep k

/-- Until the paren that closes a group is found, the depth is one or above. -/
theorem Passes.one_le_depth_take {s : List Char} (h : Passes (looksFor ')' 1) 1 s) (k : Nat) :
    1 ≤ 1 + depth (s.take k) := by
  have hstep : ∀ (l : Int) (c : Char), 1 ≤ l → looksFor ')' 1 l c = false → 1 ≤ l + turn c := by
    intro l c hl hpass
    rw [looksFor_eq_false] at hpass
    unfold turn
    split
    · omega
    · split
      · next hclose =>
        have hne : l ≠ 1 := fun hone => hpass ⟨hclose, hone⟩
        omega
      · omega
  exact h.depth_take (P := (1 ≤ ·)) (Int.le_refl 1) hstep k

end NearMiss.Text
