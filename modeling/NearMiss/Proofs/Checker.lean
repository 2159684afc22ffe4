import NearMiss.Checker
import NearMiss.Proofs.Cut
import NearMiss.Proofs.Matching

/-!
# What the checker says about a line

The checker of a corpus never fails on a line that is counted from zero: the diagnostics of the line
are the suggestions for the method that it declares, each placed on the name of that method.
-/

namespace NearMiss

open Text

/-- A suggestion with an interface can be worded. -/
theorem Suggestion.exists_message {s : Suggestion} (hs : s.sources ≠ []) :
    ∃ message, s.message? = some message := by
  have hphrase : ∃ interfaces, phrase? (s.sources.map Source.qualifiedName) = some interfaces := by
    cases hsources : s.sources with
    | nil => exact absurd hsources hs
    | cons source sources =>
      cases sources with
      | nil => exact ⟨_, rfl⟩
      | cons other sources => exact ⟨_, rfl⟩
  obtain ⟨interfaces, hinterfaces⟩ := hphrase
  exact ⟨_, by rw [message?, hinterfaces, Option.map_some]⟩

namespace Checker

/-- A line has a candidate if it begins with the keyword and its declaration is worth comparing. -/
theorem candidate?_eq_some_iff {checker : Checker} {line : String} {found : Declaration}
    {m : Method} :
    checker.candidate? line = some (found, m) ↔
      Declaration.startsWithKeyword line checker.keyword = true ∧
        Declaration.locate? line = some found ∧ m = Method.parse found.text ∧
        m.isCandidate checker.minParams = true := by
  rw [candidate?]
  by_cases hkeyword : Declaration.startsWithKeyword line checker.keyword = true
  · cases hlocate : Declaration.locate? line with
    | none => simp [hkeyword]
    | some other =>
      simp only [hkeyword, if_true, true_and, Option.some.injEq]
      constructor
      · intro h
        split at h
        · next hcandidate =>
          obtain ⟨rfl, rfl⟩ := Prod.mk.inj (Option.some.inj h)
          exact ⟨rfl, rfl, hcandidate⟩
        · simp at h
      · rintro ⟨rfl, rfl, hcandidate⟩
        rw [if_pos hcandidate]
  · simp [hkeyword]

/-- The diagnostic that places a worded suggestion on a line. -/
def placed (number : Nat) (found : Declaration) (m : Method) (s : Suggestion) : Diagnostic where
  line := number
  start := found.offset
  stop := found.offset + m.name.length
  methodName := m.name
  suggestion := s
  message := s.message?.getD ""
  code := Diagnostic.possibleRename

/-- A suggestion with sources can be placed. -/
theorem place_eq_placed {s : Suggestion} (hs : s.sources ≠ []) (number : Nat)
    (found : Declaration) (m : Method) :
    place number found m s = .ok (placed number found m s) := by
  obtain ⟨message, hmessage⟩ := Suggestion.exists_message hs
  have hnumber : ¬((number : Int) < 0) := by omega
  simp only [place, hmessage, if_neg hnumber, placed, Option.getD_some, Int.toNat_natCast]

/-- Steps that succeed with known results succeed together with all of them. -/
theorem mapM_eq_ok_map {ε α β : Type} {f : α → Except ε β} {g : α → β} {xs : List α}
    (h : ∀ x ∈ xs, f x = .ok (g x)) : xs.mapM f = .ok (xs.map g) := by
  induction xs with
  | nil => rfl
  | cons x xs ih =>
    have hlater := ih fun y hy => h y (by simp [hy])
    rw [List.mapM_cons, h x (by simp), hlater]
    rfl

/-- Nothing is said about a line whose candidate gets no suggestion. -/
theorem line_eq_nil_of_candidate {checker : Checker} {text : String} {found : Declaration}
    {m : Method} (hcandidate : checker.candidate? text = some (found, m))
    (hnone : Suggestion.forMethod checker.index m = []) (number : Int) :
    checker.line text number = .ok [] := by
  simp only [line, hcandidate, hnone]
  rfl

/-- The diagnostics of a line with a candidate are the suggestions for it, placed on its name. -/
theorem line_of_candidate {checker : Checker} {corpus : List InterfaceMethod}
    (hindex : checker.index = Index.build corpus) {text : String} {found : Declaration}
    {m : Method} (hcandidate : checker.candidate? text = some (found, m)) (number : Nat) :
    checker.line text number =
      .ok ((Suggestion.forMethod checker.index m).map (placed number found m)) := by
  rw [line, hcandidate]
  refine mapM_eq_ok_map fun s hs => place_eq_placed ?_ number found m
  rw [hindex] at hs
  exact Suggestion.sources_ne_nil_of_mem_ofBucket (Suggestion.mem_forMethod_build_iff.mp hs).2

/-- Nothing can be placed on a line with a negative number. -/
theorem line_of_candidate_of_neg {checker : Checker} {corpus : List InterfaceMethod}
    (hindex : checker.index = Index.build corpus) {text : String} {found : Declaration}
    {m : Method} (hcandidate : checker.candidate? text = some (found, m)) {number : Int}
    (hnumber : number < 0) :
    checker.line text number =
      if Suggestion.forMethod checker.index m = [] then .ok [] else .error .negativeLine := by
  simp only [line, hcandidate]
  cases hsuggestions : Suggestion.forMethod checker.index m with
  | nil =>
    rw [if_pos rfl]
    rfl
  | cons s later =>
    have hs : s ∈ Suggestion.forMethod (Index.build corpus) m := by
      rw [← hindex, hsuggestions]
      exact List.mem_cons_self
    obtain ⟨message, hmessage⟩ := Suggestion.exists_message
      (Suggestion.sources_ne_nil_of_mem_ofBucket (Suggestion.mem_forMethod_build_iff.mp hs).2)
    have hplace : place number found m s = .error .negativeLine := by
      simp only [place, hmessage, if_pos hnumber]
    rw [List.mapM_cons, hplace, if_neg (List.cons_ne_nil s later)]
    rfl

/-- Every diagnostic places a suggestion for the candidate of its line. -/
theorem exists_candidate_of_mem_line {checker : Checker} {corpus : List InterfaceMethod}
    (hindex : checker.index = Index.build corpus) {text : String} {number : Int}
    {diagnostics : List Diagnostic} (hline : checker.line text number = .ok diagnostics)
    {d : Diagnostic} (hd : d ∈ diagnostics) :
    ∃ found m, checker.candidate? text = some (found, m) ∧
      ∃ s ∈ Suggestion.forMethod checker.index m, d = placed number.toNat found m s := by
  cases hcandidate : checker.candidate? text with
  | none =>
    simp only [line, hcandidate, Except.ok.injEq] at hline
    simp [← hline] at hd
  | some candidate =>
    obtain ⟨found, m⟩ := candidate
    rcases Int.lt_or_le number 0 with hneg | hnonneg
    · rw [line_of_candidate_of_neg hindex hcandidate hneg] at hline
      split at hline
      · simp [← Except.ok.inj hline] at hd
      · simp at hline
    · have hnumber : number = (number.toNat : Int) := (Int.toNat_of_nonneg hnonneg).symm
      rw [hnumber, line_of_candidate hindex hcandidate, Except.ok.injEq] at hline
      rw [← hline] at hd
      obtain ⟨s, hs, rfl⟩ := List.mem_map.mp hd
      exact ⟨found, m, rfl, s, hs, rfl⟩

end Checker

end NearMiss
