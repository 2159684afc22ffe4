import NearMiss.Proofs.Lookup

/-!
# What a lookup shows of a signature

A lookup prints the key and the types of a method as markup. They are shown as they are if they have
no tag and no bracket behind a backslash, and call for no picture. What is shown is then laid out,
and printed as it is if it has no tabs and no characters that move the cursor or end a line.
-/

namespace NearMiss.Command

open Console

/-- The line with the key of a method. -/
def keyLine (key : String) : String :=
  s!"[blue]Signature key:[/blue] {key}"

/-- The line has its label between two tags, and behind them the key. -/
theorem toList_keyLine (key : String) :
    (keyLine key).toList = [] ++ '[' :: ("blue".toList ++ ']' :: ("Signature key:".toList ++
      '[' :: ("/blue".toList ++ ']' :: ' ' :: key.toList))) := by
  have hfront : "[blue]Signature key:[/blue] ".toList =
      '[' :: ("blue".toList ++ ']' :: ("Signature key:".toList ++
        '[' :: ("/blue".toList ++ [']', ' ']))) := by decide +kernel
  change ("[blue]Signature key:[/blue] " ++ key).toList = _
  rw [String.toList_append, hfront]
  simp only [List.nil_append, List.cons_append, List.append_assoc]

/-- The line shows its label and then the key. -/
theorem shows_keyLine (key : String) :
    Shows (keyLine key) "Signature key: ".toList key.toList := by
  have hblue : Usable "blue".toList := usable_of_mem List.mem_cons_self
  have hlabel : ∀ c ∈ "Signature key:".toList, c ≠ '[' ∧ c ≠ '\\' := by simp
  have hpictures : withPictures "Signature key:".toList = "Signature key:".toList := by
    decide +kernel
  have hshows : Shows (keyLine key) ([] ++ "Signature key:".toList ++ [' ']) key.toList :=
    hblue.shows (by simp) hlabel rfl hpictures rfl (toList_keyLine key)
  exact hshows

/-! ## What a lookup prints -/

/-- A script that only prints begins with what its first steps print, if they can. -/
theorem Script.exists_stdout_run {front later : List Step}
    (hspeaks : ∀ step ∈ front ++ later, step.Speaks) (hfront : ∀ step ∈ front, step.Sound)
    (status : Nat) (files : FileTree) :
    ∃ rest, ((ofSteps (front ++ later) status).run files).stdout =
      printedBy false front ++ rest := by
  obtain ⟨-, hstdout, -⟩ := run_of_speaks hspeaks (.ok status) files rfl
  refine ⟨printedBy false (heard later), ?_⟩
  rw [ofSteps, hstdout, heard_append_of_sound hfront, printedBy_append]

/-- What a cell of a method's table shows. Where there is no name it is a dash. -/
def shownCell (cell : String) : List Char :=
  if cell = "[dim]-[/dim]" then ['-'] else cell.toList

/-- A cell shows this if its text is shown as it is. -/
theorem visible_eq_shownCell {cell : String} (h : cell ≠ "[dim]-[/dim]" → Literal cell.toList) :
    visible cell = .ok (shownCell cell) := by
  by_cases hdash : cell = "[dim]-[/dim]"
  · rw [hdash]
    decide +kernel
  · rw [shownCell, if_neg hdash, (h hdash).visible_eq]

/-- Everything that a lookup shows of the method is shown as it is. -/
structure LiteralMethod (m : Method) : Prop where
  /-- The name of the method is. -/
  name : Literal m.name.toList
  /-- The names of parameters and results are, where there are any. -/
  names : ∀ p ∈ m.params ++ m.returns, Literal (p.name.getD "").toList
  /-- The types of parameters and results are. -/
  types : ∀ p ∈ m.params ++ m.returns, Literal p.type.toList
  /-- The key is. -/
  key : Literal m.key.toList

/-- Marks are shown as they are. -/
theorem literal_yes (mark : Bool) : Literal (yes mark).toList := by
  refine literal_of_isPlainText ?_
  cases mark with
  | false => decide +kernel
  | true => decide +kernel

/-- The cells of a parameter or result are shown as they are. -/
theorem LiteralMethod.visible_cell {m : Method} (h : LiteralMethod m) {slot : String}
    (hslot : Literal slot.toList) {p : Param} (hp : p ∈ m.params ++ m.returns) :
    ∀ cell ∈ paramRow slot p, visible cell = .ok (shownCell cell) := by
  simp only [paramRow, List.forall_mem_cons]
  refine ⟨?_, ?_, ?_, ?_, ?_, List.forall_mem_nil _⟩
  · exact visible_eq_shownCell fun _ => hslot
  · refine visible_eq_shownCell fun hdash => ?_
    split at hdash
    · exact absurd rfl hdash
    · next hname =>
      rw [if_neg hname]
      exact h.names p hp
  · exact visible_eq_shownCell fun _ => h.types p hp
  · exact visible_eq_shownCell fun _ => literal_yes _
  · exact visible_eq_shownCell fun _ => literal_yes _

/-- The table of a method is drawn with its texts as they are. -/
theorem LiteralMethod.printed_paramsTable {m : Method} (h : LiteralMethod m) :
    (paramsTable m).printed = .ok (printedText (Table.drawnLines
      ((paramsTable m).title.map shownCell) ((paramsTable m).headers.map shownCell)
      ((paramsTable m).rows.map (List.map shownCell)))) := by
  refine Table.printed_eq ?_ ?_
  · rintro title ⟨⟩
    refine visible_eq_shownCell fun _ => ?_
    split
    · exact literal_of_isPlainText (by decide +kernel)
    · exact h.name
  · rw [List.forall_mem_cons]
    constructor
    · have hheaders : (["Slot", "Name", "Type", "Pointer", "Variadic"].all fun cell =>
          isPlainText cell.toList) = true := by decide +kernel
      intro cell hcell
      have hplain := List.all_eq_true.mp hheaders cell hcell
      exact visible_eq_shownCell fun _ => literal_of_isPlainText hplain
    · have hslots : (["param", "return"].all fun slot => isPlainText slot.toList) = true := by
        decide +kernel
      intro row hrow
      obtain ⟨slot, hslot, p, hp, rfl⟩ := exists_paramRow_of_mem hrow
      exact h.visible_cell (literal_of_isPlainText (List.all_eq_true.mp hslots slot hslot)) hp

/-- Everything that a lookup shows of the parameters and results of the method, and of its key, is
printed as it is once it is shown. -/
structure SteadyMethod (m : Method) : Prop where
  /-- The names of parameters and results are, where there are any. -/
  names : ∀ p ∈ m.params ++ m.returns, Steady (p.name.getD "").toList
  /-- The types of parameters and results are. -/
  types : ∀ p ∈ m.params ++ m.returns, Steady p.type.toList
  /-- The key is. -/
  key : m.key.toList.all isSteady = true

/-- The cells of a parameter or result are printed as they are. -/
theorem SteadyMethod.steady_cell {m : Method} (h : SteadyMethod m) {slot : String}
    (hslot : Steady slot.toList) {p : Param} (hp : p ∈ m.params ++ m.returns) :
    ∀ cell ∈ paramRow slot p, Steady (shownCell cell) := by
  have hdash : Steady ['-'] := by decide +kernel
  have hcell {cell : String} (hsteady : Steady cell.toList) : Steady (shownCell cell) := by
    rw [shownCell]
    split
    · exact hdash
    · exact hsteady
  have hyes (mark : Bool) : Steady (yes mark).toList := by
    cases mark with
    | false => decide +kernel
    | true => decide +kernel
  simp only [paramRow, List.forall_mem_cons]
  refine ⟨hcell hslot, ?_, hcell (h.types p hp), hcell (hyes _), hcell (hyes _),
    List.forall_mem_nil _⟩
  split
  · exact hdash
  · exact hcell (h.names p hp)

/-- The table of a method is drawn with one line for each parameter and result. -/
theorem SteadyMethod.drawnLines_paramsTable {m : Method} (h : SteadyMethod m) :
    Table.drawnLines ((paramsTable m).title.map shownCell) ((paramsTable m).headers.map shownCell)
        ((paramsTable m).rows.map (List.map shownCell)) =
      Table.singleLines ((paramsTable m).title.map shownCell)
        ((paramsTable m).headers.map shownCell)
        ((paramsTable m).rows.map (List.map shownCell)) := by
  have hslots : ∀ slot ∈ ["param", "return"], Steady slot.toList := by decide +kernel
  have hheaders : ∀ cell ∈ (["Slot", "Name", "Type", "Pointer", "Variadic"].map shownCell),
      Steady cell := by decide +kernel
  refine Table.drawnLines_of_steady _ ?_ (List.forall_mem_cons.mpr ⟨hheaders, ?_⟩)
  · intro cells hcells
    obtain ⟨row, hmem, rfl⟩ := List.mem_map.mp hcells
    obtain ⟨slot, -, p, -, rfl⟩ := exists_paramRow_of_mem hmem
    rfl
  · intro cells hcells cell hcell
    obtain ⟨row, hmem, rfl⟩ := List.mem_map.mp hcells
    obtain ⟨slot, hslot, p, hp, rfl⟩ := exists_paramRow_of_mem hmem
    obtain ⟨text, htext, rfl⟩ := List.mem_map.mp hcell
    exact h.steady_cell (hslots slot hslot) hp text htext

/-- A lookup shows the types and the key of a method as markup. In text mode it begins with the
table of its parameters and results, where the types stand in the third column, and the line with
the key. If a type or the key has no tag and no bracket behind a backslash, then it is shown as it
is but for the pictures that it calls for. If it has, and no colon, then it is not shown as it is,
and a key without tabs, line ends and characters that move the cursor is not printed as it is. If
all that is shown of the method has no markup and calls for no picture, then the output begins with
what these texts are laid out to. If they are printed as they are, too, this is the table with one
line for each parameter and result, in which the texts are filled up with blanks to the widths of
their columns, and the label with the key behind it on one line. -/
theorem lookup_shows_signature (checker : Checker) {text declaration : String}
    (h : declarationOf? checker.keyword text = some declaration) :
    let m := Method.parse declaration
    (∃ later, lookupScript checker text false =
      .ofSteps (.table (paramsTable m) :: .print (keyLine m.key) :: later) 0) ∧
    (paramsTable m).rows.map (fun row => row[2]?) =
      (m.params ++ m.returns).map (fun p => some p.type) ∧
    (∀ p ∈ m.params ++ m.returns, Shows p.type [] p.type.toList) ∧
    Shows (keyLine m.key) "Signature key: ".toList m.key.toList ∧
    (':' ∉ m.key.toList → m.key.toList.all isSteady = true →
      (printed (keyLine m.key) = .ok (printedText ["Signature key: ".toList ++ m.key.toList]) ↔
        Unmarked m.key.toList)) ∧
    (LiteralMethod m → ∀ files, ∃ later, ((lookupScript checker text false).run files).stdout =
      printedText (Table.drawnLines ((paramsTable m).title.map shownCell)
          ((paramsTable m).headers.map shownCell)
          ((paramsTable m).rows.map (List.map shownCell))) ++
        printedText (printedLines ("Signature key: ".toList ++ m.key.toList)) ++ later) ∧
    (LiteralMethod m → SteadyMethod m → ∀ files, ∃ later,
      ((lookupScript checker text false).run files).stdout =
        printedText (Table.singleLines ((paramsTable m).title.map shownCell)
            ((paramsTable m).headers.map shownCell)
            ((paramsTable m).rows.map (List.map shownCell))) ++
          printedText ["Signature key: ".toList ++ m.key.toList] ++ later) := by
  intro m
  have hlabel : "Signature key: ".toList.all isSteady = true := by decide +kernel
  obtain ⟨later, hsteps⟩ : ∃ later, (lookup checker declaration).steps =
      [.table (paramsTable m), .print (keyLine m.key)] ++ later := ⟨_, rfl⟩
  have hscript : lookupScript checker text false =
      .ofSteps ([.table (paramsTable m), .print (keyLine m.key)] ++ later) 0 := by
    rw [← hsteps]
    exact lookupScript_of_some h false
  have hspeaks : ∀ step ∈ [.table (paramsTable m), .print (keyLine m.key)] ++ later,
      step.Speaks := by
    rw [← hsteps]
    exact fun step hstep => ((lookup checker declaration).steps_speak step hstep).1
  have hlaidOut : LiteralMethod m → ∀ files, ∃ later,
      ((lookupScript checker text false).run files).stdout =
        printedText (Table.drawnLines ((paramsTable m).title.map shownCell)
            ((paramsTable m).headers.map shownCell)
            ((paramsTable m).rows.map (List.map shownCell))) ++
          printedText (printedLines ("Signature key: ".toList ++ m.key.toList)) ++ later := by
    intro hliteral files
    have hkey : printed (keyLine m.key) =
        .ok (printedText (printedLines ("Signature key: ".toList ++ m.key.toList))) := by
      rw [printed, (shows_keyLine m.key).of_unmarked hliteral.key.unmarked, hliteral.key.pictures]
      rfl
    have htableText : (Step.table (paramsTable m)).wording? = some (.ok _) :=
      congrArg some hliteral.printed_paramsTable
    have hkeyText : (Step.print (keyLine m.key)).wording? = some (.ok _) := congrArg some hkey
    obtain ⟨rest, hstdout⟩ := Script.exists_stdout_run hspeaks
      (List.forall_mem_cons.mpr ⟨⟨_, htableText⟩, List.forall_mem_singleton.mpr ⟨_, hkeyText⟩⟩)
      0 files
    refine ⟨rest, ?_⟩
    rw [hscript, hstdout, printedBy_cons, printedBy_cons, Step.text?_of_ok htableText,
      Step.text?_of_ok hkeyText]
    exact congrArg (· ++ rest) (congrArg _ String.append_empty)
  refine ⟨⟨later, hscript⟩, ?_, fun p _ => shows_self p.type, shows_keyLine m.key,
    fun hcolon hkey => (shows_keyLine m.key).printed_iff hlabel hkey hcolon, hlaidOut, ?_⟩
  · simp only [paramsTable, List.map_append, List.map_map]
    rfl
  · intro hliteral hsteady files
    have hline : printedLines ("Signature key: ".toList ++ m.key.toList) =
        ["Signature key: ".toList ++ m.key.toList] := by
      refine printedLines_of_steady ?_
      rw [List.all_append, hlabel, hsteady.key]
      rfl
    rw [← hsteady.drawnLines_paramsTable, ← hline]
    exact hlaidOut hliteral files

/-- A method with a name and results, of which nothing looks like markup. -/
theorem literalMethod_read : LiteralMethod (Method.parse "Read(p []byte) (n int, err error)") := by
  have hall : ((Method.parse "Read(p []byte) (n int, err error)").params ++
      (Method.parse "Read(p []byte) (n int, err error)").returns).all (fun p =>
        isPlainText (p.name.getD "").toList && isPlainText p.type.toList) = true := by
    decide +kernel
  simp only [List.all_eq_true, Bool.and_eq_true] at hall
  constructor
  · exact literal_of_isPlainText (by decide +kernel)
  · exact fun p hp => literal_of_isPlainText (hall p hp).1
  · exact fun p hp => literal_of_isPlainText (hall p hp).2
  · exact literal_of_isPlainText (by decide +kernel)

/-- The texts of this method are printed as they are, too. -/
theorem steadyMethod_read : SteadyMethod (Method.parse "Read(p []byte) (n int, err error)") := by
  have hall : ((Method.parse "Read(p []byte) (n int, err error)").params ++
      (Method.parse "Read(p []byte) (n int, err error)").returns).all (fun p =>
        decide (Steady (p.name.getD "").toList) && decide (Steady p.type.toList)) = true := by
    decide +kernel
  simp only [List.all_eq_true, Bool.and_eq_true, decide_eq_true_eq] at hall
  exact ⟨fun p hp => (hall p hp).1, fun p hp => (hall p hp).2, by decide +kernel⟩

/-- The output for this method begins with its texts in a table and with its key. -/
theorem lookup_shows_signature_read :
    ∃ later, ((lookupScript (checkerOf {} []) "Read(p []byte) (n int, err error)" false).run
      ⟨[], []⟩).stdout =
        printedText (Table.singleLines (some "Read".toList)
          (["Slot", "Name", "Type", "Pointer", "Variadic"].map String.toList)
          ([["param", "p", "[]byte", "", ""], ["return", "n", "int", "", ""],
            ["return", "err", "error", "", ""]].map (List.map String.toList))) ++
        printedText ["Signature key: ([]byte) (int, error)".toList] ++ later := by
  have hdeclaration : declarationOf? "func" "Read(p []byte) (n int, err error)" =
      some "Read(p []byte) (n int, err error)" := by decide +kernel
  obtain ⟨-, -, -, -, -, -, hstdout⟩ := lookup_shows_signature (checkerOf {} []) hdeclaration
  obtain ⟨later, hlater⟩ := hstdout literalMethod_read steadyMethod_read ⟨[], []⟩
  refine ⟨later, hlater.trans ?_⟩
  have hcells : (paramsTable (Method.parse "Read(p []byte) (n int, err error)")).rows.map
      (List.map shownCell) = [["param", "p", "[]byte", "", ""], ["return", "n", "int", "", ""],
        ["return", "err", "error", "", ""]].map (List.map String.toList) := by decide +kernel
  have hkey : "Signature key: ".toList ++
      (Method.parse "Read(p []byte) (n int, err error)").key.toList =
        "Signature key: ([]byte) (int, error)".toList := by decide +kernel
  rw [hcells, hkey]
  rfl

/-- Not every type is shown as it is, nor is every key. -/
theorem brackets_lost_in_lookup :
    declarationOf? "func" "Put(m map[string]int)" = some "Put(m map[string]int)" ∧
    (Method.parse "Put(m map[string]int)").params.map (fun p => (p.type, visible p.type)) =
      [("map[string]int", .ok "mapint".toList)] ∧
    (Method.parse "Put(m map[string]int)").key = "(map[string]int) ()" ∧
    visible (keyLine "(map[string]int) ()") = .ok "Signature key: (mapint) ()".toList := by
  decide +kernel

end NearMiss.Command
