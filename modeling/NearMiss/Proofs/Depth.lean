import NearMiss.Proofs.Blank
import NearMiss.Text.Depth
import Mathlib.Data.List.Infix

/-!
# Walking over a text by depth

Every reader of this library walks over a text from the left, keeps the paren depth, and stops at
the first character that it looks for at a depth where it looks for it. This file says when such a
walk passes over a text without stopping. A balanced text is passed over by every walk that stops
only where the depth is, or gets, lower than at the beginning of that text.
-/

namespace NearMiss.Text

/-- An opening parenthesis leads one level down. -/
@[simp]
theorem turn_open : turn '(' = 1 := rfl

/-- A closing parenthesis leads one level up. -/
@[simp]
theorem turn_close : turn ')' = -1 := rfl

/-- Only parens change the depth. -/
theorem turn_eq_zero {c : Char} (hopen : c ≠ '(') (hclose : c ≠ ')') : turn c = 0 := by
  simp [turn, hopen, hclose]

/-- A text without parens. -/
def ParenFree (s : List Char) : Prop :=
  ∀ c ∈ s, c ≠ '(' ∧ c ≠ ')'

instance (s : List Char) : Decidable (ParenFree s) :=
  List.decidableBAll (fun c => c ≠ '(' ∧ c ≠ ')') s

/-- A text without parentheses ends at the level where it begins. -/
theorem ParenFree.depth_eq_zero {s : List Char} (hs : ParenFree s) : depth s = 0 := by
  induction s with
  | nil => rfl
  | cons c s ih =>
    have hc := hs c (by simp)
    have hrest : ParenFree s := fun d hd => hs d (by simp [hd])
    rw [depth_cons, turn_eq_zero hc.1 hc.2, ih hrest, Int.add_zero]

/-- Texts without parentheses follow each other without any. -/
theorem ParenFree.append {s t : List Char} (hs : ParenFree s) (ht : ParenFree t) :
    ParenFree (s ++ t) := by
  intro c hc
  rcases List.mem_append.mp hc with hc | hc
  · exact hs c hc
  · exact ht c hc

/-- No paren is a blank. -/
theorem AllBlank.parenFree {s : List Char} (hs : AllBlank s) : ParenFree s := by
  intro c hc
  have hblank := hs c hc
  constructor
  · rintro rfl
    exact absurd hblank (by decide)
  · rintro rfl
    exact absurd hblank (by decide)

/-- A text in which no prefix closes more parens than it opens, and which closes all of them. -/
structure Balanced (s : List Char) : Prop where
  /-- No prefix closes more than it opens. -/
  nonneg : ∀ before, before <+: s → 0 ≤ depth before
  /-- All parens are closed. -/
  total : depth s = 0

instance (s : List Char) : Decidable (Balanced s) :=
  decidable_of_iff ((∀ before ∈ s.inits, 0 ≤ depth before) ∧ depth s = 0)
    ⟨fun h => ⟨fun before hb => h.1 before ((List.mem_inits _ _).mpr hb), h.2⟩,
      fun h => ⟨fun before hb => h.nonneg before ((List.mem_inits _ _).mp hb), h.total⟩⟩

/-- A text whose commas all stand inside parens. -/
def NoOuterComma (s : List Char) : Prop :=
  ∀ before, before ++ [','] <+: s → depth before ≠ 0

instance (s : List Char) : Decidable (NoOuterComma s) :=
  decidable_of_iff (∀ before ∈ s.inits, before ++ [','] <+: s → depth before ≠ 0)
    ⟨fun h before hb =>
        h before ((List.mem_inits _ _).mpr ((List.prefix_append before [',']).trans hb)) hb,
      fun h before _ hb => h before hb⟩

/-- Whether a character is the one looked for, at the depth where it is looked for. -/
def looksFor (mark : Char) (goal level : Int) (c : Char) : Bool :=
  c == mark && level == goal

/-- A search ends at the mark on the level that it looks for. -/
@[simp]
theorem looksFor_eq_true {mark c : Char} {goal level : Int} :
    looksFor mark goal level c = true ↔ c = mark ∧ level = goal := by
  simp [looksFor]

/-- A search goes on at any other character and on any other level. -/
@[simp]
theorem looksFor_eq_false {mark c : Char} {goal level : Int} :
    looksFor mark goal level c = false ↔ ¬(c = mark ∧ level = goal) := by
  rw [← looksFor_eq_true, Bool.not_eq_true]

/-- A walk that begins at the given depth does not stop inside the text. -/
def Passes (stop : Int → Char → Bool) (level : Int) (s : List Char) : Prop :=
  ∀ before c after, s = before ++ c :: after → stop (level + depth before) c = false

/-- A search passes the empty text. -/
@[simp]
theorem passes_nil (stop : Int → Char → Bool) (level : Int) : Passes stop level [] := by
  intro before c after h
  simp at h

/-- A search passes a text character by character. -/
@[simp]
theorem passes_cons {stop : Int → Char → Bool} {level : Int} {c : Char} {s : List Char} :
    Passes stop level (c :: s) ↔ stop level c = false ∧ Passes stop (level + turn c) s := by
  constructor
  · intro h
    refine ⟨by simpa using h [] c s rfl, ?_⟩
    intro before d after hs
    have hd := h (c :: before) d after (by rw [hs, List.cons_append])
    rwa [depth_cons, ← Int.add_assoc] at hd
  · rintro ⟨hc, hs⟩ before d after heq
    cases before with
    | nil =>
      obtain ⟨rfl, rfl⟩ := List.cons.inj heq
      simpa using hc
    | cons b before =>
      obtain ⟨rfl, rfl⟩ := List.cons.inj heq
      rw [depth_cons, ← Int.add_assoc]
      exact hs before d after rfl

/-- A search passes two texts that follow each other, the second at the level behind the first. -/
theorem passes_append {stop : Int → Char → Bool} {level : Int} {s t : List Char} :
    Passes stop level (s ++ t) ↔ Passes stop level s ∧ Passes stop (level + depth s) t := by
  induction s generalizing level with
  | nil => simp
  | cons c s ih =>
    rw [List.cons_append, passes_cons, passes_cons, ih, depth_cons, ← Int.add_assoc, and_assoc]

/-- A walk passes over characters at which it never stops, whatever the depth. -/
theorem passes_of_forall {stop : Int → Char → Bool} {level : Int} {s : List Char}
    (h : ∀ c ∈ s, ∀ l, stop l c = false) : Passes stop level s := by
  intro before c after hs
  exact h c (by simp [hs]) _

/-- A walk that looks for outer commas passes over a text that has none. -/
theorem passes_comma_iff {s : List Char} : Passes (looksFor ',' 0) 0 s ↔ NoOuterComma s := by
  constructor
  · rintro h before ⟨after, rfl⟩ hdepth
    have hpass := h before ',' after (by simp)
    simp [hdepth] at hpass
  · rintro h before c after rfl
    rw [looksFor_eq_false]
    rintro ⟨rfl, hdepth⟩
    exact h before ⟨after, by simp⟩ (by simpa using hdepth)

/-- A text without commas has no outer comma. -/
theorem noOuterComma_of_forall {s : List Char} (hs : ∀ c ∈ s, c ≠ ',') : NoOuterComma s := by
  rintro before hb -
  exact hs ',' (hb.subset (by simp)) rfl

/-- No comma is a blank. -/
theorem AllBlank.noOuterComma {s : List Char} (hs : AllBlank s) : NoOuterComma s := by
  refine noOuterComma_of_forall ?_
  rintro c hc rfl
  exact absurd (hs ',' hc) (by decide)

/-- Texts without outer commas follow each other without any if the first ends on its level. -/
theorem NoOuterComma.append {s t : List Char} (hs : NoOuterComma s) (hdepth : depth s = 0)
    (ht : NoOuterComma t) : NoOuterComma (s ++ t) := by
  rw [← passes_comma_iff, passes_append, hdepth]
  exact ⟨passes_comma_iff.mpr hs, passes_comma_iff.mpr ht⟩

/-- Behind a text that ends on its level, outer commas are outer commas of the whole. -/
theorem NoOuterComma.of_append {s t : List Char} (hdepth : depth s = 0)
    (h : NoOuterComma (s ++ t)) : NoOuterComma t := by
  rw [← passes_comma_iff, passes_append, hdepth] at h
  exact passes_comma_iff.mp h.2

/-- The empty text is balanced. -/
theorem balanced_nil : Balanced [] := by decide

/-- A text without parentheses is balanced. -/
theorem ParenFree.balanced {s : List Char} (hs : ParenFree s) : Balanced s where
  nonneg before hb := by
    have hbefore : ParenFree before := fun c hc => hs c (hb.subset hc)
    exact Int.le_of_eq hbefore.depth_eq_zero.symm
  total := hs.depth_eq_zero

/-- Balanced texts follow each other balanced. -/
theorem Balanced.append {s t : List Char} (hs : Balanced s) (ht : Balanced t) :
    Balanced (s ++ t) where
  nonneg before hb := by
    rcases List.prefix_or_prefix_of_prefix hb (List.prefix_append s t) with hshort | ⟨u, rfl⟩
    · exact hs.nonneg before hshort
    · rw [depth_append, hs.total, Int.zero_add]
      exact ht.nonneg u ((List.prefix_append_right_inj s).mp hb)
  total := by rw [depth_append, hs.total, ht.total, Int.add_zero]

/-- What stands behind a text that ends on its level is balanced if the whole is. -/
theorem Balanced.of_append {s t : List Char} (hs : depth s = 0) (h : Balanced (s ++ t)) :
    Balanced t where
  nonneg before hb := by
    have hlonger := h.nonneg (s ++ before) ((List.prefix_append_right_inj s).mpr hb)
    rwa [depth_append, hs, Int.zero_add] at hlonger
  total := by
    have htotal := h.total
    rwa [depth_append, hs, Int.zero_add] at htotal

/-- A walk passes over a balanced text if it stops only where the depth is, or gets, lower than at
the beginning of that text. -/
theorem Balanced.passes {stop : Int → Char → Bool} {level : Int} {s : List Char}
    (hs : Balanced s) (hstop : ∀ l c, stop l c = true → l < level ∨ l + turn c < level) :
    Passes stop level s := by
  intro before c after heq
  have hbefore : 0 ≤ depth before := hs.nonneg before ⟨c :: after, heq.symm⟩
  have hnext : 0 ≤ depth (before ++ [c]) := hs.nonneg _ ⟨after, by simp [heq]⟩
  rw [depth_append, depth_cons, depth_nil] at hnext
  by_contra hne
  have := hstop _ _ (by simpa using hne)
  omega

/-- The paren that closes a group does not stand in the balanced inside of the group. -/
theorem Balanced.passes_close {s : List Char} (hs : Balanced s) :
    Passes (looksFor ')' 1) 1 s := by
  refine hs.passes fun l c hstop => Or.inr ?_
  obtain ⟨rfl, rfl⟩ := looksFor_eq_true.mp hstop
  decide

end NearMiss.Text
