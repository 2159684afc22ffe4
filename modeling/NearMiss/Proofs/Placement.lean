import NearMiss.Proofs.Rename

/-!
# Where a diagnostic points

A diagnostic gives its place by two offsets into the line. The first comes from the search for an
exported letter outside parens, the second from the length of the name that is read behind it. They
fit together because the name is read from that letter on, so the text between them is the name.
-/

namespace NearMiss

open Text

/-- The offsets of a diagnostic enclose the name it is about, which is an exported one. -/
structure Diagnostic.PointsAt (d : Diagnostic) (text : List Char) : Prop where
  /-- The place is not empty. -/
  start_lt_stop : d.start < d.stop
  /-- The place lies in the line. -/
  stop_le_length : d.stop ≤ text.length
  /-- The name stands there. -/
  extract_eq : text.extract d.start d.stop = d.methodName.toList
  /-- The name begins with an exported letter. -/
  exported : ∃ c ∈ text[d.start]?, Declaration.isExported c = true

namespace Checker

/-- A text between others is cut out by the offsets of its two ends. -/
theorem extract_between (before name after : List Char) :
    (before ++ (name ++ after)).extract before.length (before.length + name.length) = name := by
  rw [List.extract_eq_take_drop, List.drop_left, Nat.add_sub_cancel_left, List.take_left]

/-- A suggestion for the candidate of a line is placed on the name of that candidate. -/
theorem placed_pointsAt {checker : Checker} {text : String} {found : Declaration} {m : Method}
    (hcandidate : checker.candidate? text = some (found, m)) (number : Nat) (s : Suggestion) :
    (placed number found m s).PointsAt text.toList := by
  obtain ⟨before, blank, tail, -, -, htext, hoffset, ⟨c, hc, hexported⟩, -, -⟩ :=
    exists_surrounds_of_candidate hcandidate
  obtain ⟨name, hname⟩ := List.head?_eq_some_iff.mp hc
  have hlength : m.name.length = m.name.toList.length := String.length_toList.symm
  refine ⟨?_, ?_, ?_, c, ?_, hexported⟩
  · have hpos : 0 < m.name.length := by
      rw [hlength, hname]
      exact Nat.succ_pos _
    exact Nat.lt_add_of_pos_right hpos
  · change found.offset + m.name.length ≤ text.toList.length
    rw [htext, hoffset, hlength, List.length_append, List.length_append]
    omega
  · change text.toList.extract found.offset (found.offset + m.name.length) = m.name.toList
    rw [htext, hoffset, hlength, extract_between]
  · change text.toList[found.offset]? = some c
    rw [htext, hoffset, List.getElem?_append_right (Nat.le_refl _), Nat.sub_self, hname]
    rfl

/-- What the checker of a corpus says about a line that is counted from zero. -/
def diagnosticsOf (checker : Checker) (text : String) (number : Nat) : List Diagnostic :=
  match checker.candidate? text with
  | none => []
  | some (found, m) => (Suggestion.forMethod checker.index m).map (placed number found m)

/-- The checker of a corpus does not fail on a line that is counted from zero. -/
theorem line_eq_diagnosticsOf {checker : Checker} {corpus : List InterfaceMethod}
    (hindex : checker.index = Index.build corpus) (text : String) (number : Nat) :
    checker.line text number = .ok (checker.diagnosticsOf text number) := by
  cases hcandidate : checker.candidate? text with
  | none => simp only [line, diagnosticsOf, hcandidate]
  | some candidate =>
    rw [line_of_candidate hindex hcandidate number, diagnosticsOf, hcandidate]

/-- Every diagnostic places a suggestion for the candidate on its name. -/
theorem mem_diagnosticsOf_iff {checker : Checker} {text : String} {number : Nat}
    {d : Diagnostic} :
    d ∈ checker.diagnosticsOf text number ↔
      ∃ found m, checker.candidate? text = some (found, m) ∧
        ∃ s ∈ Suggestion.forMethod checker.index m, d = placed number found m s := by
  rw [diagnosticsOf]
  cases hcandidate : checker.candidate? text with
  | none => simp
  | some candidate =>
    obtain ⟨found, m⟩ := candidate
    simp only [List.mem_map, Option.some.injEq, Prod.mk.injEq]
    constructor
    · rintro ⟨s, hs, rfl⟩
      exact ⟨found, m, ⟨rfl, rfl⟩, s, hs, rfl⟩
    · rintro ⟨_, _, ⟨rfl, rfl⟩, s, hs, rfl⟩
      exact ⟨s, hs, rfl⟩

/-- A diagnostic points at the name in its line. -/
theorem pointsAt_of_mem_diagnosticsOf {checker : Checker} {text : String} {number : Nat}
    {d : Diagnostic} (hd : d ∈ checker.diagnosticsOf text number) : d.PointsAt text.toList := by
  obtain ⟨found, m, hcandidate, s, -, rfl⟩ := mem_diagnosticsOf_iff.mp hd
  exact placed_pointsAt hcandidate number s

/-- The diagnostics of a line are about one name and propose different ones for it. -/
theorem nodup_targets_diagnosticsOf {checker : Checker} {corpus : List InterfaceMethod}
    (hindex : checker.index = Index.build corpus) (text : String) (number : Nat) :
    ((checker.diagnosticsOf text number).map (·.suggestion.targetName)).Nodup := by
  rw [diagnosticsOf]
  split
  · exact List.nodup_nil
  · rw [List.map_map, hindex]
    exact Suggestion.nodup_map_targetName_forMethod corpus _

end Checker

/-- The checker answers for every line, well formed or not, and each diagnostic points at the name
it is about: its offsets enclose that name in the line, the name is an exported one, the line number
is the one that was given, and another name is proposed. The diagnostics of a line point at the same
place and no two of them propose the same name. -/
theorem Command.line_pointsAt (settings : Settings) (corpus : Corpus) (text : String)
    (number : Nat) :
    ∃ diagnostics, (checkerOf settings corpus).line text number = .ok diagnostics ∧
      (∀ d ∈ diagnostics, d.PointsAt text.toList ∧ d.line = number ∧
        d.suggestion.targetName ≠ d.methodName) ∧
      (∀ d ∈ diagnostics, ∀ e ∈ diagnostics,
        d.start = e.start ∧ d.stop = e.stop ∧ d.methodName = e.methodName) ∧
      (diagnostics.map (·.suggestion.targetName)).Nodup := by
  have hindex : (checkerOf settings corpus).index = Index.build corpus := rfl
  refine ⟨_, Checker.line_eq_diagnosticsOf hindex text number, fun d hd => ?_, fun d hd e he => ?_,
    Checker.nodup_targets_diagnosticsOf hindex text number⟩
  · have hpoints := Checker.pointsAt_of_mem_diagnosticsOf hd
    obtain ⟨found, m, -, s, hs, rfl⟩ := Checker.mem_diagnosticsOf_iff.mp hd
    exact ⟨hpoints, rfl, Suggestion.targetName_ne_of_mem_forMethod (hindex ▸ hs)⟩
  · obtain ⟨found, m, hcandidate, s, -, rfl⟩ := Checker.mem_diagnosticsOf_iff.mp hd
    obtain ⟨found', m', hcandidate', s', -, rfl⟩ := Checker.mem_diagnosticsOf_iff.mp he
    rw [hcandidate, Option.some.injEq, Prod.mk.injEq] at hcandidate'
    obtain ⟨rfl, rfl⟩ := hcandidate'
    exact ⟨rfl, rfl, rfl⟩

end NearMiss
