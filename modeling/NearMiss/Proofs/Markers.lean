import NearMiss.Param
import Mathlib.Data.List.Basic

/-!
# Markers before a type

Stars and a variadic marker may stand before a type. All leading stars are markers, and `...` is one
where it follows them, so a written type falls into markers and type in one way: the type is what is
left, and where no `...` sets it off it begins with no marker itself. This file says so without
regard to how the markers are taken off, and that the reader takes off just these.
-/

namespace NearMiss

/-- A text that does not begin with a marker. -/
def StartsBare (s : List Char) : Prop :=
  ¬['*'] <+: s ∧ ¬['.', '.', '.'] <+: s

instance (s : List Char) : Decidable (StartsBare s) :=
  inferInstanceAs (Decidable (¬['*'] <+: s ∧ ¬['.', '.', '.'] <+: s))

/-- The markers of a type: a number of stars, and `...` behind them if it is variadic. -/
def markers (stars : Nat) (isVariadic : Bool) : List Char :=
  List.replicate stars '*' ++ if isVariadic then ['.', '.', '.'] else []

/-- Behind its stars, a written type begins with no star. -/
theorem not_star_prefix_dots_append {isVariadic : Bool} {type : List Char}
    (hbare : isVariadic = false → StartsBare type) :
    ¬['*'] <+: (if isVariadic then ['.', '.', '.'] else []) ++ type := by
  cases isVariadic with
  | true => simp
  | false => exact (hbare rfl).1

namespace Param

/-- The type and the flags of a parameter are those of a written type. -/
structure HasType (p : Param) (written : List Char) : Prop where
  /-- The markers that the flags tell stand before the type. -/
  split : ∃ stars, written = markers stars p.isVariadic ++ p.type.toList ∧
    p.isPointer = decide (0 < stars)
  /-- Where no `...` sets it off, the type begins with no marker. -/
  bare : p.isVariadic = false → StartsBare p.type.toList

/-- Every text is a run of stars and a rest that begins with none. -/
theorem exists_stars_append (written : List Char) :
    ∃ stars rest, written = List.replicate stars '*' ++ rest ∧ ¬['*'] <+: rest := by
  induction written with
  | nil => exact ⟨0, [], rfl, by simp⟩
  | cons c written ih =>
    by_cases hc : c = '*'
    · obtain ⟨stars, rest, rfl, hrest⟩ := ih
      exact ⟨stars + 1, rest, by rw [hc, List.replicate_succ, List.cons_append], hrest⟩
    · exact ⟨0, c :: written, rfl, by simpa using Ne.symm hc⟩

/-- Taking off stars leaves what stands behind them. -/
theorem dropWhile_stars_append {rest : List Char} (hrest : ¬['*'] <+: rest) (stars : Nat) :
    (List.replicate stars '*' ++ rest).dropWhile (· == '*') = rest := by
  have hstars : ∀ c ∈ List.replicate stars '*', (c == '*') = true := by
    intro c hc
    rw [List.eq_of_mem_replicate hc]
    rfl
  rw [List.dropWhile_append_of_pos hstars]
  cases rest with
  | nil => rfl
  | cons c rest =>
    refine List.dropWhile_cons_of_neg ?_
    rintro hc
    rw [beq_iff_eq] at hc
    exact hrest ⟨rest, by rw [hc, List.singleton_append]⟩

/-- There are stars if the first character is one. -/
theorem head?_stars_append {rest : List Char} (hrest : ¬['*'] <+: rest) (stars : Nat) :
    ((List.replicate stars '*' ++ rest).head? == some '*') = decide (0 < stars) := by
  cases stars with
  | succ stars => rfl
  | zero =>
    cases rest with
    | nil => rfl
    | cons c rest =>
      have hc : c ≠ '*' := by
        rintro rfl
        exact hrest ⟨rest, rfl⟩
      simpa using hc

/-- The reader takes off the stars, and then the variadic marker if it is there. -/
theorem ofWritten_stars_append {rest : List Char} (hrest : ¬['*'] <+: rest)
    (name : Option (List Char)) (stars : Nat) :
    ofWritten name (List.replicate stars '*' ++ rest) =
      { name := name.map String.ofList
        type := String.ofList (if ['.', '.', '.'].isPrefixOf rest then rest.drop 3 else rest)
        isVariadic := ['.', '.', '.'].isPrefixOf rest
        isPointer := decide (0 < stars) } := by
  simp only [ofWritten, dropWhile_stars_append hrest, head?_stars_append hrest]
  rfl

/-- A parameter is read with the type and the flags of its written type. -/
theorem hasType_ofWritten (name : Option (List Char)) (written : List Char) :
    (ofWritten name written).HasType written := by
  obtain ⟨stars, rest, rfl, hrest⟩ := exists_stars_append written
  rw [ofWritten_stars_append hrest]
  cases hdots : ['.', '.', '.'].isPrefixOf rest with
  | true =>
    obtain ⟨type, rfl⟩ := List.isPrefixOf_iff_prefix.mp hdots
    refine ⟨⟨stars, ?_, rfl⟩, by simp⟩
    simp [markers]
  | false =>
    have hnone : ¬['.', '.', '.'] <+: rest := by
      rw [← List.isPrefixOf_iff_prefix, hdots]
      decide
    refine ⟨⟨stars, ?_, rfl⟩, fun _ => ?_⟩
    · simp [markers]
    · simpa using ⟨hrest, hnone⟩

/-- The written type determines the type and the flags. -/
theorem HasType.eq_ofWritten {p : Param} {written : List Char} (h : p.HasType written)
    {name : Option (List Char)} (hname : p.name = name.map String.ofList) :
    p = ofWritten name written := by
  obtain ⟨stars, rfl, hpointer⟩ := h.split
  have hbare := h.bare
  obtain ⟨_, type, isVariadic, isPointer⟩ := p
  have hrest := not_star_prefix_dots_append hbare
  simp only at hname hpointer hbare hrest ⊢
  rw [markers, List.append_assoc, ofWritten_stars_append hrest, hname, hpointer]
  cases isVariadic with
  | true => simp
  | false =>
    have hnone : ['.', '.', '.'].isPrefixOf type.toList = false := by
      rw [← Bool.not_eq_true, List.isPrefixOf_iff_prefix]
      exact (hbare rfl).2
    simp [hnone]

end Param

end NearMiss
