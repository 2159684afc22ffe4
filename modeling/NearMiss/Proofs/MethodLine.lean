import NearMiss.Proofs.Entry
import NearMiss.Proofs.Receiver

/-!
# Method lines

A method line is put together from a receiver, a name, parameters and results, with free choice of
blanks and of commas at the end of a list. Reading such a line finds the declaration where the name
begins and gives the name, the parameters and the results back. Nested parens in receivers and in
function types do not mislead any of the readers.
-/

namespace NearMiss

open Text

/-- The results of a method. -/
inductive Results where
  /-- No results. -/
  | absent
  /-- One type without parens around it. -/
  | single (written : WrittenType) (type_plain : Plain written.type)
  /-- Results in parens. -/
  | group (entries : List ResultEntry)

namespace Results

/-- The parameters that the results declare. -/
def params : Results → List Param
  | absent => []
  | single written _ => [written.param none]
  | group entries => entries.map ResultEntry.param

/-- The texts that state the results behind the parameters. Blanks in front of them belong to
them. -/
inductive Writes : Results → List Char → Prop
  /-- Nothing is written. -/
  | absent : Writes absent []
  /-- A type stands alone. -/
  | single {gap : List Char} {written : WrittenType} {type_plain : Plain written.type}
      (hgap : AllBlank gap) : Writes (single written type_plain) (gap ++ written.text)
  /-- A list stands in parens. -/
  | group {gap inside : List Char} {entries : List ResultEntry} (hgap : AllBlank gap)
      (hinside : Param.Lists (entries.map ResultEntry.text) inside) :
      Writes (group entries) (gap ++ '(' :: (inside ++ [')']))

/-- Neither the parens around results nor blanks before them change what is read. -/
theorem Writes.readList {results : Results} {text : List Char} (h : results.Writes text) :
    Param.readList false (Method.dropOuterParens 0 text) = results.params := by
  cases h with
  | absent => rfl
  | @single gap written type_plain hgap =>
    have hfree : ParenFree (gap ++ written.text) :=
      hgap.parenFree.append (written.text_plain type_plain).parenFree
    have hlist : Param.Lists [written.text] (gap ++ written.text ++ []) :=
      .last hgap allBlank_nil
    have hread : Param.readList false (gap ++ written.text ++ []) =
        [ResultEntry.bare written type_plain.blankFree].map ResultEntry.param :=
      ResultEntry.readList_of_lists hlist
    rw [Method.dropOuterParens_of_parenFree hfree]
    simpa [Results.params, ResultEntry.param] using hread
  | @group gap inside entries hgap hinside =>
    have hbalanced : Balanced inside :=
      hinside.balanced (by simpa using fun e _ => e.text_isPiece.balanced)
    rw [Method.dropOuterParens_group hgap hbalanced]
    exact ResultEntry.readList_of_lists (hinside.blank_append hgap)

/-- A declaration does not end in a blank. -/
theorem Writes.last_not_blank {results : Results} {text : List Char} (h : results.Writes text) :
    ∀ c ∈ (')' :: text).getLast?, isBlank c = false := by
  cases h with
  | absent =>
    intro c hc
    obtain rfl : ')' = c := Option.some.inj hc
    decide
  | @single gap written type_plain hgap =>
    rw [← List.cons_append, List.getLast?_append_of_ne_nil _ written.text_ne_nil]
    exact written.text_isPiece.trimmed.last
  | group hgap hinside =>
    rw [← List.cons_append, ← List.cons_append, ← List.append_assoc, List.getLast?_concat]
    intro c hc
    obtain rfl : ')' = c := Option.some.inj hc
    decide

end Results

/-- A method line in parts. -/
structure MethodLine where
  /-- What stands in the parens before the name. -/
  receiver : List Char
  /-- The name. -/
  name : List Char
  /-- The parameters. -/
  params : List NamedEntry
  /-- The results. -/
  results : Results
  /-- The parens of the receiver are balanced. -/
  receiver_balanced : Balanced receiver
  /-- The name is exported. -/
  name_exported : ∃ c ∈ name.head?, Declaration.isExported c = true
  /-- The name holds no blank. -/
  name_blankFree : BlankFree name
  /-- The name holds no paren. -/
  name_parenFree : ParenFree name

namespace MethodLine

/-- The keyword and the receiver, up to the name. -/
def front (m : MethodLine) : List Char :=
  ['f', 'u', 'n', 'c', ' ', '('] ++ m.receiver ++ [')', ' ']

/-- The texts that declare the method: its name, its parameters in parens, its results. -/
def Declares (m : MethodLine) (declaration : List Char) : Prop :=
  ∃ group results, Param.Lists (m.params.map NamedEntry.text) group ∧ m.results.Writes results ∧
    declaration = m.name ++ '(' :: (group ++ ')' :: results)

/-- What stands in front of the name is balanced. -/
theorem depth_front (m : MethodLine) : depth m.front = 0 :=
  depth_receiverFront m.receiver_balanced

/-- No declaration begins in the keyword or in the receiver. -/
theorem passes_front (m : MethodLine) : Passes Declaration.begins 0 m.front :=
  passes_receiverFront m.receiver_balanced

/-- A method begins with the keyword. -/
theorem startsWithKeyword_front (m : MethodLine) (rest : List Char) :
    Declaration.startsWithKeyword (String.ofList (m.front ++ rest)) "func" = true :=
  startsWithKeyword_receiverFront m.receiver rest

/-- The declaration of a method line begins with its name. -/
theorem cut?_front (m : MethodLine) {declaration : List Char} (h : m.Declares declaration)
    (rest : List Char) :
    Declaration.cut? 0 (m.front ++ (declaration ++ rest)) =
      some (m.front, declaration ++ rest) := by
  obtain ⟨group, results, -, -, rfl⟩ := h
  rw [List.append_assoc]
  exact Declaration.cut?_before_name m.passes_front (Int.le_of_eq m.depth_front) m.name_exported _

/-- Reading a declaration gives its parts. -/
theorem parse_of_declares (m : MethodLine) {declaration : List Char}
    (h : m.Declares declaration) :
    Method.parse (String.ofList declaration) =
      { signature := String.ofList declaration
        name := String.ofList m.name
        params := m.params.map NamedEntry.param
        returns := m.results.params } := by
  obtain ⟨group, results, hgroup, hresults, rfl⟩ := h
  have hbalanced : Balanced group :=
    hgroup.balanced (by simpa using fun e _ => e.text_isPiece.balanced)
  rw [Method.parse_of_balanced m.name_parenFree hbalanced,
    trim_eq_self m.name_blankFree.trimmed, NamedEntry.readList_of_lists true hgroup,
    hresults.readList]

/-- A method line is read back: it begins with the keyword, its declaration is found where its name
begins and ends before the brace, and the declaration has the name, the parameters and the results
of the line. Blanks and commas at the end of a list can be chosen freely. -/
theorem read_line (m : MethodLine) {declaration gap rest : List Char}
    (hdeclares : m.Declares declaration) (hgap : AllBlank gap) (hrest : AllBlank rest) :
    let line := String.ofList (m.front ++ (declaration ++ gap ++ '\x7b' :: rest))
    Declaration.startsWithKeyword line "func" = true ∧
      Declaration.locate? line = some ⟨m.front.length, String.ofList declaration⟩ ∧
      Method.parse (String.ofList declaration) =
        { signature := String.ofList declaration
          name := String.ofList m.name
          params := m.params.map NamedEntry.param
          returns := m.results.params } := by
  refine ⟨m.startsWithKeyword_front _, ?_, m.parse_of_declares hdeclares⟩
  have hlast : ∀ c ∈ declaration.getLast?, isBlank c = false := by
    obtain ⟨group, results, -, hresults, rfl⟩ := hdeclares
    rw [← List.cons_append, ← List.append_assoc, List.getLast?_append_of_ne_nil _ (by simp)]
    exact hresults.last_not_blank
  have hbrace := Declaration.dropBrace_append_brace hlast hgap hrest
  rw [List.append_assoc] at hbrace ⊢
  simp only [Declaration.locate?, String.toList_ofList, m.cut?_front hdeclares, Option.map_some,
    hbrace]

/-- A line with nested parens in its receiver and in a function type, markers of both kinds, and a
result without a name beside one with a name. -/
def walkLine : MethodLine where
  receiver := "w *Walker[func(Node)]".toList
  name := "Walk".toList
  params := [
    { name := "root".toList, gap := [' ']
      written := ⟨0, false, "string".toList, by decide, by decide, by decide⟩
      name_ne_nil := by decide, name_plain := by decide
      gap_ne_nil := by decide, gap_allBlank := by decide },
    { name := "visit".toList, gap := ['\t']
      written := ⟨2, true, "func(a, b int) error".toList, by decide, by decide, by decide⟩
      name_ne_nil := by decide, name_plain := by decide
      gap_ne_nil := by decide, gap_allBlank := by decide }]
  results := .group [
    .named
      { name := "n".toList, gap := [' ']
        written := ⟨0, false, "int".toList, by decide, by decide, by decide⟩
        name_ne_nil := by decide, name_plain := by decide
        gap_ne_nil := by decide, gap_allBlank := by decide },
    .bare ⟨1, false, "error".toList, by decide, by decide, by decide⟩ (by decide)]
  receiver_balanced := by decide
  name_exported := ⟨'W', rfl, by decide⟩
  name_blankFree := by decide
  name_parenFree := by decide

/-- A declaration of that line with blanks before a comma and a comma at the end of a list. -/
def walkDeclaration : List Char :=
  "Walk(root string , visit\t**...func(a, b int) error,) (n int, *error)".toList

/-- The line has the declaration. -/
theorem walkLine_declares : walkLine.Declares walkDeclaration := by
  refine ⟨"root string , visit\t**...func(a, b int) error,".toList, " (n int, *error)".toList,
    ?_, ?_, by decide⟩
  · exact @Param.Lists.more _ [] [' '] _ _ (by decide) (by decide)
      (@Param.Lists.more _ [' '] [] _ _ (by decide) (by decide) (.nothing allBlank_nil))
  · refine @Results.Writes.group [' '] "n int, *error".toList _ (by decide) ?_
    exact @Param.Lists.more _ [] [] _ _ (by decide) (by decide)
      (@Param.Lists.last _ [' '] [] (by decide) (by decide))

/-- The line is read with its receiver, parameters and results. -/
theorem read_walkLine :
    walkLine.Declares walkDeclaration ∧ AllBlank [' '] ∧
      Declaration.locate? (String.ofList (walkLine.front ++
        (walkDeclaration ++ [' '] ++ '\x7b' :: []))) = some ⟨29, String.ofList walkDeclaration⟩ ∧
      Method.parse (String.ofList walkDeclaration) =
        { signature := String.ofList walkDeclaration
          name := "Walk"
          params := [⟨some "root", "string", false, false⟩,
            ⟨some "visit", "func(a, b int) error", true, true⟩]
          returns := [⟨some "n", "int", false, false⟩, ⟨none, "error", false, true⟩] } := by
  have hread := walkLine.read_line walkLine_declares (show AllBlank [' '] by decide) allBlank_nil
  exact ⟨walkLine_declares, by decide, hread.2.1, hread.2.2⟩

end MethodLine

end NearMiss
