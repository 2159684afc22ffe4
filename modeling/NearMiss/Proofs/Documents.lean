import NearMiss.Command.Check
import NearMiss.Proofs.LineNumbers
import NearMiss.Proofs.Utf8

/-!
# Whole documents

A document is checked line by line, and the number of a line matters for nothing but the number that
its diagnostics carry. So what is said about a document follows from its lines: a document that is
put together at a line feed gets the diagnostics of its two parts, those of the second moved down,
and a document that is read from a file gets those of the text that was written there, although its
carriage returns are gone.
-/

namespace NearMiss

open Text

/-- The diagnostic of the same place, the given number of lines further down. -/
def Diagnostic.moved (count : Nat) (d : Diagnostic) : Diagnostic :=
  { d with line := d.line + count }

/-- A diagnostic is moved by lines. -/
@[simp]
theorem Diagnostic.moved_line (count : Nat) (d : Diagnostic) :
    (d.moved count).line = d.line + count := rfl

/-- Moving twice is moving by the sum. -/
theorem Diagnostic.moved_moved (first second : Nat) (d : Diagnostic) :
    (d.moved first).moved second = d.moved (first + second) := by
  simp only [moved, Nat.add_assoc]

/-- A suggestion names an interface, whatever the index holds. -/
theorem Suggestion.sources_ne_nil_of_mem_forMethod {index : Index} {m : Method} {s : Suggestion}
    (hs : s ∈ forMethod index m) : s.sources ≠ [] := by
  rw [forMethod] at hs
  split at hs
  · simp at hs
  · split at hs
    · simp at hs
    · exact sources_ne_nil_of_mem_ofBucket hs

namespace Checker

variable (checker : Checker)

/-! ## Lines of a document -/

/-- What is said about a line is settled before its number is known. -/
theorem exists_line_eq_moved (text : String) :
    ∃ here : List Diagnostic, (∀ d ∈ here, d.line = 0) ∧
      ∀ number : Nat, checker.line text number = .ok (here.map (Diagnostic.moved number)) := by
  cases hcandidate : checker.candidate? text with
  | none =>
    refine ⟨[], by simp, fun number => ?_⟩
    rw [line, hcandidate]
    rfl
  | some candidate =>
    obtain ⟨found, m⟩ := candidate
    refine ⟨(Suggestion.forMethod checker.index m).map (placed 0 found m), ?_, fun number => ?_⟩
    · intro d hd
      obtain ⟨s, -, rfl⟩ := List.mem_map.mp hd
      rfl
    · rw [line, hcandidate, List.map_map]
      refine mapM_eq_ok_map fun s hs => ?_
      rw [place_eq_placed (Suggestion.sources_ne_nil_of_mem_forMethod hs)]
      simp only [Function.comp_apply, Diagnostic.moved, placed, Nat.zero_add]

/-- The diagnostics of lines that are counted from zero: they can be had, they are in the order of
the lines, and lines that are counted from elsewhere have the same ones, moved. -/
structure Finds (texts : List (List Char)) (found : List Diagnostic) : Prop where
  /-- Counted from any number, the lines have these diagnostics. -/
  linesFrom_eq : ∀ number,
    checker.linesFrom number texts = .ok (found.map (Diagnostic.moved number))
  /-- Every diagnostic is on one of the lines. -/
  line_lt : ∀ d ∈ found, d.line < texts.length
  /-- The diagnostics are in the order of the lines. -/
  ordered : found.Pairwise fun d e => d.line ≤ e.line

variable {checker}

/-- Nothing is found in no lines. -/
theorem Finds.nil : checker.Finds [] [] :=
  ⟨fun _ => rfl, by simp, List.Pairwise.nil⟩

/-- Something comes of every line. -/
theorem exists_finds_singleton (checker : Checker) (text : List Char) :
    ∃ found, checker.Finds [text] found := by
  obtain ⟨here, hzero, hline⟩ := checker.exists_line_eq_moved (String.ofList text)
  refine ⟨here, fun number => ?_, fun d hd => ?_, ?_⟩
  · rw [linesFrom, hline]
    exact congrArg Except.ok (List.append_nil _)
  · rw [hzero d hd]
    exact Nat.zero_lt_one
  · refine List.pairwise_of_forall_mem_list fun d hd e he => ?_
    rw [hzero d hd, hzero e he]

/-- The lines behind others are checked under their own numbers. -/
theorem linesFrom_append (number : Nat) (front back : List (List Char)) :
    checker.linesFrom number (front ++ back) = do
      let here ← checker.linesFrom number front
      let further ← checker.linesFrom (number + front.length) back
      return here ++ further := by
  induction front generalizing number with
  | nil => exact (bind_pure (checker.linesFrom number back)).symm
  | cons text later ih =>
    simp only [List.cons_append, linesFrom, ih, List.length_cons, bind_assoc, pure_bind,
      List.append_assoc, Nat.add_assoc, Nat.add_comm 1]

/-- The diagnostics of joined lists of lines are those of the lists, the second ones moved down. -/
theorem Finds.append {front back : List (List Char)} {found further : List Diagnostic}
    (hfront : checker.Finds front found) (hback : checker.Finds back further) :
    checker.Finds (front ++ back) (found ++ further.map (Diagnostic.moved front.length)) where
  linesFrom_eq number := by
    have hmoved : (further.map (Diagnostic.moved front.length)).map (Diagnostic.moved number) =
        further.map (Diagnostic.moved (number + front.length)) := by
      rw [List.map_map, Nat.add_comm]
      exact List.map_congr_left fun d _ => d.moved_moved front.length number
    rw [linesFrom_append, hfront.linesFrom_eq, hback.linesFrom_eq, List.map_append, hmoved]
    rfl
  line_lt d hd := by
    rw [List.length_append]
    rcases List.mem_append.mp hd with hd | hd
    · exact Nat.lt_add_right _ (hfront.line_lt d hd)
    · obtain ⟨e, he, rfl⟩ := List.mem_map.mp hd
      have hlt := hback.line_lt e he
      rw [Diagnostic.moved_line]
      omega
  ordered := by
    refine List.pairwise_append.mpr ⟨hfront.ordered, ?_, fun d hd e he => ?_⟩
    · exact List.pairwise_map.mpr (hback.ordered.imp fun hle => Nat.add_le_add_right hle _)
    · obtain ⟨e, -, rfl⟩ := List.mem_map.mp he
      have hlt := hfront.line_lt d hd
      rw [Diagnostic.moved_line]
      omega

/-- All lines have diagnostics: the checker does not fail on them. -/
theorem exists_finds (checker : Checker) (texts : List (List Char)) :
    ∃ found, checker.Finds texts found := by
  induction texts with
  | nil => exact ⟨[], .nil⟩
  | cons text later ih =>
    obtain ⟨here, hhere⟩ := exists_finds_singleton checker text
    obtain ⟨further, hfurther⟩ := ih
    exact ⟨_, hhere.append hfurther⟩

/-- Nothing is said about an empty line. -/
theorem finds_empty : checker.Finds [[]] [] := by
  have hnone : checker.candidate? (String.ofList []) = none := by
    rw [candidate?]
    split <;> rfl
  refine ⟨fun number => ?_, by simp, List.Pairwise.nil⟩
  simp only [linesFrom, line, hnone]
  rfl

/-- What is found in the lines of a text is found in the text. -/
theorem Finds.source_eq {text : String} {found : List Diagnostic}
    (h : checker.Finds (lines text.toList) found) : checker.source text = .ok found := by
  rw [source, h.linesFrom_eq]
  exact congrArg Except.ok (List.map_id'' (fun _ => rfl) found)

/-- A line feed at the end of a document does not matter. -/
theorem Finds.append_feed {s : List Char} {found : List Diagnostic}
    (h : checker.Finds (lines s) found) : checker.Finds (lines (s ++ ['\n'])) found := by
  rcases lines_append_feed_eq_or s with hsame | hempty
  · rwa [hsame]
  · have hlonger := h.append finds_empty
    rwa [← hempty, List.map_nil, List.append_nil] at hlonger

/-- The diagnostics of the first lines are those with a smaller number. -/
theorem Finds.filter_line_lt {front : List (List Char)} {found : List Diagnostic}
    (h : checker.Finds front found) (further : List Diagnostic) :
    (found ++ further.map (Diagnostic.moved front.length)).filter (·.line < front.length) =
      found := by
  have hfound : found.filter (·.line < front.length) = found :=
    List.filter_eq_self.mpr fun d hd => decide_eq_true (h.line_lt d hd)
  have hfurther : (further.map (Diagnostic.moved front.length)).filter
      (·.line < front.length) = [] := by
    refine List.filter_eq_nil_iff.mpr fun d hd => ?_
    obtain ⟨e, -, rfl⟩ := List.mem_map.mp hd
    rw [decide_eq_true_eq, Diagnostic.moved_line]
    omega
  rw [List.filter_append, hfound, hfurther, List.append_nil]

/-! ## Documents put together -/

/-- Two texts with a line feed between them have the diagnostics of the first and, behind them,
those of the second, whose line numbers grow by the number of lines before it while nothing else
about them changes. The diagnostics are in the order of their lines, and whatever the second text
is, those on the lines of the first are the diagnostics of the first text alone. -/
theorem source_append (checker : Checker) (first : String) :
    ∃ front, checker.source first = .ok front ∧ checker.source (first ++ "\n") = .ok front ∧
      ∀ second, ∃ back whole, checker.source second = .ok back ∧
        checker.source (first ++ "\n" ++ second) = .ok whole ∧
        whole = front ++ back.map (Diagnostic.moved (lines (first ++ "\n").toList).length) ∧
        (back.Pairwise fun d e => d.line ≤ e.line) ∧
        (whole.Pairwise fun d e => d.line ≤ e.line) ∧
        whole.filter (·.line < (lines (first ++ "\n").toList).length) = front := by
  have hfeed : (first ++ "\n").toList = first.toList ++ ['\n'] := String.toList_append
  obtain ⟨front, hfront⟩ := exists_finds checker (lines first.toList)
  have hfrontFeed : checker.Finds (lines (first ++ "\n").toList) front := by
    rw [hfeed]
    exact hfront.append_feed
  refine ⟨front, hfront.source_eq, hfrontFeed.source_eq, fun second => ?_⟩
  obtain ⟨back, hback⟩ := exists_finds checker (lines second.toList)
  have hwhole : checker.Finds (lines (first ++ "\n" ++ second).toList)
      (front ++ back.map (Diagnostic.moved (lines (first ++ "\n").toList).length)) := by
    have hlines : lines (first ++ "\n" ++ second).toList =
        lines (first ++ "\n").toList ++ lines second.toList := by
      rw [String.toList_append, hfeed, List.append_assoc, List.singleton_append,
        lines_append_feed]
    rw [hlines]
    exact hfrontFeed.append hback
  exact ⟨back, _, hback.source_eq, hwhole.source_eq, rfl, hback.ordered, hwhole.ordered,
    hfrontFeed.filter_line_lt back⟩

/-! ## Documents in files -/

/-- A text is checked as it was before it was encoded. -/
theorem octets_encode (checker : Checker) (text : String) :
    checker.octets (encode text.toList) = checker.source text := by
  simp only [octets, decode_encode, source, String.toList_ofList, lines_normalizeNewlines]

/-- The octets of a text are checked like the text itself, and so is every file that holds them:
the checker does not fail, and it finds the same in the same places. The lines are the same although
carriage returns become line feeds when a file is read. -/
theorem octets_eq_source (checker : Checker) (text : String) :
    ∃ diagnostics, checker.source text = .ok diagnostics ∧
      checker.octets text.toUTF8.data.toList = .ok diagnostics ∧
      ∀ (tree : FileTree) (path : Path), tree.read path = .ok text.toUTF8.data.toList →
        Command.examine checker tree path = .ok (path, .ok diagnostics) := by
  obtain ⟨diagnostics, hfinds⟩ := exists_finds checker (lines text.toList)
  have hsource := hfinds.source_eq
  have hoctets : checker.octets text.toUTF8.data.toList = .ok diagnostics := by
    rw [← encode_toList, octets_encode, hsource]
  refine ⟨diagnostics, hsource, hoctets, fun tree path hread => ?_⟩
  simp only [Command.examine, hread, hoctets]

/-- A byte order mark, and runs of line ends of many kinds before a method with a misspelt name. -/
def mixedEndsText : String :=
  "\ufeff//\r\r\n\n\r\x0b\u2028func (b T) Reed(p []byte) (int, error) \x7b\r"

/-- A file that holds the given octets, seen from its directory. -/
def mixedEndsTree (octets : List UInt8) : FileTree :=
  ⟨[(["work"], .directory), (["work", "mixed.go"], .file (.plain octets))], ["work"]⟩

/-- A file with line ends of several kinds is checked line by line. -/
theorem octets_eq_source_mixedEnds :
    (mixedEndsTree mixedEndsText.toUTF8.data.toList).read ⟨"", ["mixed.go"]⟩ =
        .ok mixedEndsText.toUTF8.data.toList ∧
      Command.examine (Command.checkerOf {} readerCorpus)
        (mixedEndsTree mixedEndsText.toUTF8.data.toList) ⟨"", ["mixed.go"]⟩ =
        .ok (⟨"", ["mixed.go"]⟩, .ok [reedDiagnostic 6]) := by
  have hread (octets : List UInt8) :
      (mixedEndsTree octets).read ⟨"", ["mixed.go"]⟩ = .ok octets := rfl
  have hsource : (Command.checkerOf {} readerCorpus).source mixedEndsText =
      .ok [reedDiagnostic 6] := rfl
  obtain ⟨diagnostics, hagain, -, hfile⟩ :=
    octets_eq_source (Command.checkerOf {} readerCorpus) mixedEndsText
  obtain rfl := Except.ok.inj (hsource.symm.trans hagain)
  exact ⟨hread _, hfile _ _ (hread _)⟩

end Checker

end NearMiss
