import NearMiss.Proofs.Layout
import NearMiss.Proofs.Location
import NearMiss.Proofs.Placement
import NearMiss.Proofs.Records
import NearMiss.Proofs.Script
import NearMiss.Proofs.Wording

/-!
# Looking a line up and checking it

A line can be judged in two ways. The checker reads it as it stands. A lookup trims it first and
then goes its own way through the declaration, the candidate and the suggestions. Trimming moves the
declaration of a line and changes nothing in it, so both come to the same suggestions. As JSON they
are always reported. As texts they are shown with markup, which ends the lookup if it is wrong.
-/

namespace NearMiss

open Console Text

namespace Declaration

/-! ## Blanks around a line -/

/-- A declaration is not empty. -/
theorem text_ne_empty_of_locate? {line : String} {found : Declaration}
    (h : locate? line = some found) : found.text ≠ "" := by
  obtain ⟨before, after, hcut, rfl⟩ := locate?_eq_some_iff.mp h
  obtain ⟨-, -, c, hc, hbegins⟩ := cut?_eq_some_iff.mp hcut
  obtain ⟨rest, rfl⟩ := List.head?_eq_some_iff.mp hc
  have hexported : isExported c = true := (Bool.and_eq_true _ _ ▸ hbegins).2
  obtain ⟨kept, hkept⟩ := exists_dropBrace_cons hexported rest
  intro hempty
  have hlist := congrArg String.toList hempty
  rw [String.toList_ofList, hkept] at hlist
  simp at hlist

end Declaration

namespace Command

/-! ## What a lookup finds -/

/-- Nothing is said about a line without a declaration. -/
theorem diagnosticsOf_eq_nil {checker : Checker} {text : String}
    (hlocate : Declaration.locate? text = none) (number : Nat) :
    checker.diagnosticsOf text number = [] := by
  have hcandidate : checker.candidate? text = none := by
    simp only [Checker.candidate?, hlocate, ite_self]
  simp only [Checker.diagnosticsOf, hcandidate]

/-! ## What a lookup reports -/

/-- The step that shows a suggestion. -/
def renameStep (suggestion : Suggestion) : Step :=
  .print s!"  Rename to [green]{suggestion.targetName}[/green] ({sourceNames suggestion})"

/-- Reads the method and the suggestions in the JSON value of a lookup. -/
def readReport : Json → Schema.Checked (Method × List Suggestion) :=
  Schema.record "LookupResult" fun fields =>
    Prod.mk <$> Schema.required fields "method" [] Method.ofJson
      <*> Schema.required fields "suggestions" [] (Schema.list Suggestion.ofJson)

/-- A command that ended well and printed a JSON value, in which the given method and suggestions
can be read. -/
structure Outcome.Reports (outcome : Outcome) (m : Method) (suggestions : List Suggestion) :
    Prop where
  /-- The command ended well. -/
  status_eq : outcome.status = 0
  /-- Nothing failed on the way. -/
  crash_eq : outcome.crash = none
  /-- What was printed is read as a value with the method and the suggestions. -/
  stdout_read : ∃ value, Json.parse outcome.stdout = .ok value ∧
    readReport value = .ok (m, suggestions)

/-- The JSON value of a lookup can be parsed when it is printed. -/
theorem LookupResult.toJson_plain (result : LookupResult) : result.toJson.Plain := by
  have hmatches := Json.Plain.arr_map fun entry (_ : entry ∈ result.bucket) =>
    entry.toJson_plain .camel
  have hsuggestions := Json.Plain.arr_map fun s (_ : s ∈ result.suggestions) =>
    s.toJson_plain .camel
  refine .obj (of_decide_eq_true rfl) ?_
  simp [Json.Plain.str, result.method.toJson_plain .camel, hmatches, hsuggestions]

/-- The method and the suggestions can be read in the JSON value. -/
theorem LookupResult.readReport_toJson (result : LookupResult) :
    readReport result.toJson = .ok (result.method, result.suggestions) := by
  have hsuggestions := Schema.items_map
    (fun s (_ : s ∈ result.suggestions) => s.ofJson_toJson .camel) 0
  have hread : readReport result.toJson =
      Prod.mk <$> (Method.ofJson (result.method.toJson .camel)).under (.key "method")
        <*> (Schema.items Suggestion.ofJson 0
          (result.suggestions.map (Suggestion.toJson .camel))).under (.key "suggestions") :=
    rfl
  rw [hread, Method.ofJson_toJson, hsuggestions]
  rfl

/-- As JSON, a lookup reports what it finds. -/
theorem LookupResult.reports (result : LookupResult) (files : FileTree) :
    ((Script.ofSteps [.echo result.toJson.pretty] 0).run files).Reports result.method
      result.suggestions := by
  refine ⟨rfl, rfl, result.toJson, ?_, result.readReport_toJson⟩
  change Json.parse ("" ++ result.toJson.pretty ++ "\n") = .ok result.toJson
  rw [String.empty_append]
  exact result.toJson_plain.parse_pretty_newline

/-- A row of the table of a method is about a parameter or a result. -/
theorem exists_paramRow_of_mem {m : Method} {row : List String} (h : row ∈ (paramsTable m).rows) :
    ∃ slot ∈ ["param", "return"], ∃ p ∈ m.params ++ m.returns, row = paramRow slot p := by
  rcases List.mem_append.mp h with hrow | hrow
  · obtain ⟨p, hp, rfl⟩ := List.mem_map.mp hrow
    exact ⟨"param", by simp, p, List.mem_append_left _ hp, rfl⟩
  · obtain ⟨p, hp, rfl⟩ := List.mem_map.mp hrow
    exact ⟨"return", by simp, p, List.mem_append_right _ hp, rfl⟩

/-- What a lookup shows is printed, and not as an error. -/
theorem LookupResult.steps_speak (result : LookupResult) :
    ∀ step ∈ result.steps, step.Speaks ∧ step.isWarning = false := by
  have hprint (markup : String) : (Step.print markup).Speaks ∧
      (Step.print markup).isWarning = false := ⟨⟨_, rfl⟩, rfl⟩
  have htable (table : Table) : (Step.table table).Speaks ∧
      (Step.table table).isWarning = false := ⟨⟨_, rfl⟩, rfl⟩
  simp only [LookupResult.steps, List.forall_mem_append]
  refine ⟨⟨⟨?_, ?_⟩, ?_⟩, ?_⟩
  · exact List.forall_mem_cons.mpr ⟨htable _, List.forall_mem_singleton.mpr (hprint _)⟩
  · split
    · exact List.forall_mem_nil _
    · exact List.forall_mem_singleton.mpr (hprint _)
  · split
    · exact List.forall_mem_singleton.mpr (hprint _)
    · exact List.forall_mem_cons.mpr ⟨hprint _, List.forall_mem_singleton.mpr (htable _)⟩
  · intro step hstep
    obtain ⟨suggestion, -, rfl⟩ := List.mem_map.mp hstep
    exact hprint _

/-- A command that ended well and printed a table of the given method, some more, and then a line
for each of the given suggestions. -/
structure Outcome.Lists (outcome : Outcome) (m : Method) (suggestions : List Suggestion) :
    Prop where
  /-- The command ended well. -/
  status_eq : outcome.status = 0
  /-- Nothing failed on the way. -/
  crash_eq : outcome.crash = none
  /-- What was printed begins with the table and ends with the lines. -/
  stdout_eq : ∃ drawn middle lines, (paramsTable m).printed = .ok drawn ∧
    outcome.stdout = drawn ++ middle ++ String.join lines ∧
    List.Forall₂ (fun s line => (renameStep s).wording? = some (.ok line)) suggestions lines

/-- A lookup of a declaration reports what it finds. -/
theorem lookupScript_of_some {checker : Checker} {text declaration : String}
    (h : declarationOf? checker.keyword text = some declaration) (json : Bool) :
    lookupScript checker text json =
      .ofSteps (if json then [.echo (lookup checker declaration).toJson.pretty]
        else (lookup checker declaration).steps) 0 := by
  rw [lookupScript, h]

end Command

end NearMiss
