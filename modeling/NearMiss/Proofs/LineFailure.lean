import NearMiss.Proofs.Documents
import NearMiss.Proofs.Faults
import NearMiss.Proofs.Lookup

/-!
# When a line cannot be checked

A diagnostic is a record with bounds: its line number and its two offsets must not be negative, and
its message cannot be worded without an interface. Of these conditions the checker can break only
the first, and only where it is given a negative number for a line about which there is something to
say. The search for a declaration answers with a negative offset where it finds none, but then with
an empty text, at which the checker stops; and every suggestion comes from an entry, whose interface
it names.
-/

namespace NearMiss

open Schema

/-! ## Offsets -/

namespace Declaration

/-- The offset and the text of the declaration of a line. If there is none, the offset is negative
and the text is empty. -/
def located (line : String) : Int × String :=
  (locate? line).elim (-1, "") fun found => ((found.offset : Int), found.text)

/-- A declaration that is found is where the checker takes it to be. -/
theorem located_of_some {line : String} {found : Declaration} (h : locate? line = some found) :
    located line = ((found.offset : Int), found.text) := by
  rw [located, h, Option.elim_some]

/-- The offset is negative exactly if the text is empty. -/
theorem located_offset_neg_iff {line : String} :
    (located line).1 < 0 ↔ (located line).2 = "" := by
  cases hlocate : locate? line with
  | none => simp [located, hlocate]
  | some found =>
    have htext := text_ne_empty_of_locate? hlocate
    simp only [located_of_some hlocate, htext, iff_false]
    omega

end Declaration

/-! ## Records with bounds -/

/-- The fault of a field with a number below zero, if it has one. -/
def Schema.belowZero (field : String) (n : Int) : List Fault :=
  if n < 0 then [⟨[.key field], .below 0⟩] else []

/-- A number has a fault in its field exactly if it is below zero. -/
theorem Schema.faults_natFrom_zero (field : String) (n : Int) :
    ((natFrom 0 (.int n)).under (.key field)).faults = belowZero field n := by
  rw [natFrom_zero, belowZero]
  split <;> rfl

namespace Checker

/-- A diagnostic before it is checked, when its numbers may still be negative. -/
def submitted (number offset : Int) (m : Method) (s : Suggestion) (message : String) : Json :=
  .obj [("line", .int number), ("start", .int offset), ("end", .int (offset + m.name.length)),
    ("method_name", .str m.name), ("suggestion", s.toJson .snake), ("message", .str message),
    ("code", .str Diagnostic.possibleRename)]

/-- Of what is submitted, only the three numbers can be refused. -/
theorem ofJson_submitted (number offset : Int) (m : Method) (s : Suggestion) (message : String) :
    Diagnostic.ofJson (submitted number offset m s message) =
      Diagnostic.mk <$> (natFrom 0 (.int number)).under (.key "line")
        <*> (natFrom 0 (.int offset)).under (.key "start")
        <*> (natFrom 0 (.int (offset + m.name.length))).under (.key "end")
        <*> pure m.name <*> pure s <*> pure message <*> pure Diagnostic.possibleRename := by
  have hread : Diagnostic.ofJson (submitted number offset m s message) =
      Diagnostic.mk <$> (natFrom 0 (.int number)).under (.key "line")
        <*> (natFrom 0 (.int offset)).under (.key "start")
        <*> (natFrom 0 (.int (offset + m.name.length))).under (.key "end")
        <*> pure m.name <*> (Suggestion.ofJson (s.toJson .snake)).under (.key "suggestion")
        <*> pure message <*> pure Diagnostic.possibleRename :=
    rfl
  rw [hread, Suggestion.ofJson_toJson]
  rfl

/-- A diagnostic is refused for each of its numbers that is negative and for nothing else. -/
theorem faults_submitted (number offset : Int) (m : Method) (s : Suggestion) (message : String) :
    (Diagnostic.ofJson (submitted number offset m s message)).faults =
      belowZero "line" number ++ belowZero "start" offset ++
        belowZero "end" (offset + m.name.length) := by
  have hpure {α : Type} (a : α) : (pure a : Checked α).faults = [] := rfl
  simp only [ofJson_submitted, Checked.faults_seq, Checked.faults_map, faults_natFrom_zero, hpure,
    List.append_nil]

/-- To place a suggestion is to check the diagnostic as a record. -/
theorem place_eq_ofJson {s : Suggestion} {message : String} (hmessage : s.message? = some message)
    (number : Int) (found : Declaration) (m : Method) :
    place number found m s =
      (Diagnostic.ofJson (submitted number found.offset m s message)).toExcept.mapError
        fun _ => .negativeLine := by
  have hstart : natFrom 0 (.int (found.offset : Int)) = .ok found.offset :=
    natFrom_zero_of_nonneg (Int.natCast_nonneg _)
  have hstop : natFrom 0 (.int ((found.offset : Int) + m.name.length)) =
      .ok (found.offset + m.name.length) :=
    natFrom_zero_of_nonneg (Int.natCast_nonneg _)
  rw [ofJson_submitted, hstart, hstop]
  simp only [place, hmessage]
  by_cases hneg : number < 0
  · rw [if_pos hneg, natFrom_zero, if_pos hneg]
    rfl
  · rw [if_neg hneg, natFrom_zero_of_nonneg (by omega)]
    rfl

/-- A suggestion for the method that a line declares can be made a diagnostic of that line, unless
the line has a negative number. -/
structure Placeable (text : String) (found : Declaration) (m : Method) (s : Suggestion) :
    Prop where
  /-- It names an interface. -/
  sources_ne_nil : s.sources ≠ []
  /-- The offset that the search for the declaration gives is not negative. -/
  start_nonneg : 0 ≤ (Declaration.located text).1
  /-- The offset where the name ends is not negative. -/
  stop_nonneg : 0 ≤ (Declaration.located text).1 + m.name.length
  /-- A message can be worded, and what is placed is what comes of checking the record, which is
  refused for the number of the line alone. -/
  place_eq : ∀ number, ∃ message, s.message? = some message ∧
    (Diagnostic.ofJson (submitted number (Declaration.located text).1 m s message)).faults =
      belowZero "line" number ∧
    place number found m s =
      (Diagnostic.ofJson
        (submitted number (Declaration.located text).1 m s message)).toExcept.mapError
          fun _ => .negativeLine

/-- Every suggestion for the candidate of a line can be placed. -/
theorem placeable_of_mem_forMethod {checker : Checker} {text : String} {found : Declaration}
    {m : Method} (hcandidate : checker.candidate? text = some (found, m)) {s : Suggestion}
    (hs : s ∈ Suggestion.forMethod checker.index m) : Placeable text found m s := by
  obtain ⟨-, hlocate, -, -⟩ := candidate?_eq_some_iff.mp hcandidate
  have hsources := Suggestion.sources_ne_nil_of_mem_forMethod hs
  have hlocated : (Declaration.located text).1 = found.offset := by
    rw [Declaration.located_of_some hlocate]
  have hstart : 0 ≤ (Declaration.located text).1 := by omega
  have hstop : 0 ≤ (Declaration.located text).1 + m.name.length := by omega
  refine ⟨hsources, hstart, hstop, fun number => ?_⟩
  obtain ⟨message, hmessage⟩ := Suggestion.exists_message hsources
  refine ⟨message, hmessage, ?_, ?_⟩
  · have hnone {field : String} {n : Int} (hn : 0 ≤ n) : belowZero field n = [] :=
      if_neg (by omega)
    rw [faults_submitted, hnone hstart, hnone hstop, List.append_nil, List.append_nil]
  · rw [place_eq_ofJson hmessage, hlocated]

/-! ## Lines and documents -/

/-- A line fails exactly if its number is negative and there is something to say about it. -/
theorem line_eq_error_iff {checker : Checker} {corpus : List InterfaceMethod}
    (hindex : checker.index = Index.build corpus) {text : String} {number : Int} {error : Error} :
    checker.line text number = .error error ↔
      error = .negativeLine ∧ number < 0 ∧ checker.diagnosticsOf text 0 ≠ [] := by
  cases hcandidate : checker.candidate? text with
  | none => simp [line, diagnosticsOf, hcandidate]
  | some candidate =>
    obtain ⟨found, m⟩ := candidate
    have hhere : checker.diagnosticsOf text 0 =
        (Suggestion.forMethod checker.index m).map (placed 0 found m) := by
      rw [diagnosticsOf, hcandidate]
    rw [hhere, ne_eq, List.map_eq_nil_iff]
    rcases Int.lt_or_le number 0 with hneg | hnonneg
    · rw [line_of_candidate_of_neg hindex hcandidate hneg]
      split
      · next hnone => simp [hnone]
      · next hsome => simp [hsome, hneg, eq_comm]
    · have hnumber : number = (number.toNat : Int) := (Int.toNat_of_nonneg hnonneg).symm
      rw [hnumber, line_of_candidate hindex hcandidate]
      simp only [reduceCtorEq, false_iff, not_and]
      omega

end Checker

/-- The checker fails on a line exactly if the number of the line is negative and something is said
about the line when it is counted as the first. The failure is then the one that a diagnostic with
that number is refused for, in its field for the line. All else that a diagnostic could be refused
for is ruled out: each suggestion names an interface, and a negative offset comes with an empty
declaration, which is no candidate. So no text makes the checker fail. -/
theorem Command.line_fails_iff (settings : Settings) (corpus : Corpus) (text : String) :
    ∃ here, (checkerOf settings corpus).line text 0 = .ok here ∧
      (∀ number error, (checkerOf settings corpus).line text number = .error error ↔
        error = .negativeLine ∧ number < 0 ∧ here ≠ []) ∧
      Checker.Error.negativeLine.message = describe [⟨[.key "line"], .below 0⟩] ∧
      ((Declaration.located text).1 < 0 ↔ (Declaration.located text).2 = "") ∧
      (∀ found m, (checkerOf settings corpus).candidate? text = some (found, m) →
        ∀ s ∈ Suggestion.forMethod (checkerOf settings corpus).index m,
          Checker.Placeable text found m s) ∧
      ∃ diagnostics, (checkerOf settings corpus).source text = .ok diagnostics := by
  have hindex : (checkerOf settings corpus).index = Index.build corpus := rfl
  obtain ⟨diagnostics, hfinds⟩ :=
    Checker.exists_finds (checkerOf settings corpus) (Text.lines text.toList)
  refine ⟨_, Checker.line_eq_diagnosticsOf hindex text 0, fun number error => ?_, rfl,
    Declaration.located_offset_neg_iff, fun found m hcandidate s hs => ?_, diagnostics,
    hfinds.source_eq⟩
  · exact Checker.line_eq_error_iff hindex
  · exact Checker.placeable_of_mem_forMethod hcandidate hs

end NearMiss
