import NearMiss.Proofs.Lines
import NearMiss.Proofs.Placement

/-!
# Line numbers of a document

A document is checked line by line, and a diagnostic carries the number of its line. Lines are
counted by all line ends, while an editor counts line feeds. So the number that a diagnostic carries
is the editor's number plus the number of other line ends before it, and it is the editor's number
exactly if there are none.
-/

namespace NearMiss

open Text

namespace Checker

variable {checker : Checker} {corpus : List InterfaceMethod}

/-- The checker of a corpus does not fail on lines: it says about each what it says about it
alone. -/
theorem linesFrom_eq_flatMap (hindex : checker.index = Index.build corpus) (number : Nat)
    (texts : List (List Char)) :
    checker.linesFrom number texts = .ok ((texts.zipIdx number).flatMap fun entry =>
      checker.diagnosticsOf (String.ofList entry.1) entry.2) := by
  induction texts generalizing number with
  | nil => rfl
  | cons text later ih =>
    rw [linesFrom, line_eq_diagnosticsOf hindex, ih]
    rfl

/-- Every diagnostic of a document is one of some line of it, under the number of that line. -/
theorem exists_line_of_mem_source (hindex : checker.index = Index.build corpus) (text : String) :
    ∃ diagnostics, checker.source text = .ok diagnostics ∧
      ∀ d ∈ diagnostics, ∃ line, (lines text.toList)[d.line]? = some line ∧
        d ∈ checker.diagnosticsOf (String.ofList line) d.line := by
  refine ⟨_, linesFrom_eq_flatMap hindex 0 (lines text.toList), fun d hd => ?_⟩
  obtain ⟨⟨line, number⟩, hentry, hd⟩ := List.mem_flatMap.mp hd
  have hline : (lines text.toList)[number]? = some line := List.mem_zipIdx_iff_getElem?.mp hentry
  obtain ⟨found, m, -, s, -, rfl⟩ := mem_diagnosticsOf_iff.mp hd
  exact ⟨line, hline, hd⟩

end Checker

/-- A place in the front of a text is cut out of the whole text the same. -/
theorem Diagnostic.PointsAt.extract_append {d : Diagnostic} {line : List Char}
    (h : d.PointsAt line) (more : List Char) :
    (line ++ more).extract d.start d.stop = d.methodName.toList := by
  have hstop := h.stop_le_length
  have hstart := h.start_lt_stop
  rw [← h.extract_eq, List.extract_eq_take_drop, List.extract_eq_take_drop,
    List.drop_append_of_le_length (by omega), List.take_append_of_le_length]
  rw [List.length_drop]
  omega

/-- A document without lone carriage returns is checked without failure, and each diagnostic points
at a name on a line of it. Its number is the number of line feeds before that line plus the number
of other line ends before it. If there are none of those, the document has a line of that number
between its line feeds, and the name stands there at the offsets of the diagnostic. -/
theorem Command.source_line_number (settings : Settings) (corpus : Corpus) {text : String}
    (hreturn : NoLoneReturn text.toList) :
    ∃ diagnostics, (checkerOf settings corpus).source text = .ok diagnostics ∧
      ∀ d ∈ diagnostics, ∃ before line after,
        text.toList = before ++ (line ++ after) ∧ IsLine before line after ∧ d.PointsAt line ∧
        d.line = before.count '\n' + before.countP isOtherEnd ∧
        (before.countP isOtherEnd = 0 →
          ∃ editorLine, (split '\n' text.toList)[d.line]? = some editorLine ∧
            editorLine.extract d.start d.stop = d.methodName.toList) := by
  have hindex : (checkerOf settings corpus).index = Index.build corpus := rfl
  obtain ⟨diagnostics, hsource, hlines⟩ := Checker.exists_line_of_mem_source hindex text
  refine ⟨diagnostics, hsource, fun d hd => ?_⟩
  obtain ⟨line, hline, hdline⟩ := hlines d hd
  obtain ⟨before, after, htext, hisLine, hnumber⟩ := exists_isLine_of_getElem?_lines hreturn hline
  have hpoints : d.PointsAt line := by
    rw [← String.toList_ofList (l := line)]
    exact Checker.pointsAt_of_mem_diagnosticsOf hdline
  refine ⟨before, line, after, htext, hisLine, hpoints, hnumber, fun hnone => ?_⟩
  have hfeeds : ∀ c ∈ before.getLast?, c = '\n' := by
    intro c hc
    refine (hisLine.starts c hc).resolve_right fun hother => ?_
    exact List.countP_eq_zero.mp hnone c (List.mem_of_getLast? hc) hother
  have hinside : '\n' ∉ line := by
    intro hfeed
    exact absurd (hisLine.inside '\n' hfeed) (by decide)
  obtain ⟨more, heditor⟩ := exists_getElem?_split hfeeds hinside after
  rw [lineEnds, hnone, Nat.add_zero] at hnumber
  refine ⟨line ++ more, ?_, hpoints.extract_append more⟩
  rw [htext, hnumber, heditor]

/-- The corpus of one interface. -/
def readerCorpus : Corpus :=
  [.ofSignature "io" "Reader" "Read(p []byte) (n int, err error)"]

/-- A comment with the given last character, and a method with a misspelt name on the next line. -/
def reedText (last : Char) : String :=
  String.ofList ['/', '/', last] ++ "\nfunc (b T) Reed(p []byte) (int, error) \x7b\n"

/-- What is said about that method if its line has the given number. -/
def reedDiagnostic (line : Nat) : Diagnostic where
  line := line
  start := 11
  stop := 15
  methodName := "Reed"
  suggestion := ⟨"Read", [⟨"io", "Reader"⟩]⟩
  message := "This almost conforms to the io.Reader interface, but the method name should be 'Read'"
  code := Diagnostic.possibleRename

/-- A line that ends with both characters is found under its number, and so is the name in it. -/
theorem Command.source_line_number_carriageReturn :
    NoLoneReturn (reedText '\r').toList ∧
      (checkerOf {} readerCorpus).source (reedText '\r') = .ok [reedDiagnostic 1] ∧
      ∃ editorLine, (split '\n' (reedText '\r').toList)[1]? = some editorLine ∧
        editorLine.extract 11 15 = "Reed".toList := by
  have hreturn : NoLoneReturn (reedText '\r').toList := by decide
  have hothers : (reedText '\r').toList.countP isOtherEnd = 0 := by decide
  have hsource : (checkerOf {} readerCorpus).source (reedText '\r') = .ok [reedDiagnostic 1] := rfl
  obtain ⟨diagnostics, hagain, hplaces⟩ := source_line_number {} readerCorpus hreturn
  obtain rfl := Except.ok.inj (hsource.symm.trans hagain)
  obtain ⟨before, line, after, htext, -, -, -, heditor⟩ := hplaces _ List.mem_cons_self
  rw [htext, List.countP_append] at hothers
  exact ⟨hreturn, hsource, heditor (Nat.add_eq_zero_iff.mp hothers).1⟩

/-- A form feed at the end of the comment puts the diagnostic on a line that an editor does not
have there. -/
theorem Command.source_line_number_formFeed :
    NoLoneReturn (reedText '\x0c').toList ∧
      (checkerOf {} readerCorpus).source (reedText '\x0c') = .ok [reedDiagnostic 2] ∧
      ¬∃ editorLine, (split '\n' (reedText '\x0c').toList)[2]? = some editorLine ∧
        editorLine.extract 11 15 = "Reed".toList := by
  have hsplit : (split '\n' (reedText '\x0c').toList)[2]? = some [] := by decide
  refine ⟨by decide, rfl, ?_⟩
  rintro ⟨editorLine, hline, hextract⟩
  obtain rfl := Option.some.inj (hsplit.symm.trans hline)
  exact absurd hextract (by decide)

end NearMiss
