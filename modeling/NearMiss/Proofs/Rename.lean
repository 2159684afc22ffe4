import NearMiss.Command.Run
import NearMiss.Proofs.Checker
import NearMiss.Proofs.Keyword

/-!
# Taking up a suggestion

A diagnostic is settled by writing the proposed name in place of the one it points at. The new line
is read from scratch, and everything but the name is found where it was: the keyword, because it
ends before the name; the place of the declaration, because it is the first exported letter outside
parens in both lines; the brace and the groups, because they stand behind the paren that ends the
name. So the shape is the same, and now an entry of that shape has the method's name.
-/

namespace NearMiss

open Text

/-- The line with the proposed name in place of the one that a diagnostic points at. -/
def Diagnostic.renamed (d : Diagnostic) (line : String) : String :=
  String.ofList (line.toList.take d.start ++ d.suggestion.targetName.toList ++
    line.toList.drop d.stop)

/-- A text that can take the place of a name: an exported letter begins it, no blank ends it, and it
holds no paren. -/
structure IsName (s : List Char) : Prop where
  /-- It begins with an exported letter. -/
  exported : ∃ c ∈ s.head?, Declaration.isExported c = true
  /-- It does not end in a blank. -/
  last : ∀ c ∈ s.getLast?, isBlank c = false
  /-- It holds no paren. -/
  parenFree : ParenFree s

instance (s : List Char) : Decidable (IsName s) :=
  decidable_of_iff
    (s.head?.any Declaration.isExported ∧ s.getLast?.all (!isBlank ·) ∧ ParenFree s)
    ⟨fun h => ⟨by simpa [Option.any_eq_true] using h.1,
        by simpa [Option.all_eq_true] using h.2.1, h.2.2⟩,
      fun h => ⟨by simpa [Option.any_eq_true] using h.exported,
        by simpa [Option.all_eq_true] using h.last, h.parenFree⟩⟩

/-- A name is trimmed. -/
theorem IsName.trimmed {s : List Char} (hs : IsName s) : Trimmed s where
  head c hc := by
    obtain ⟨d, hd, hexported⟩ := hs.exported
    obtain rfl := Option.mem_unique hc hd
    exact Declaration.isBlank_of_isExported hexported
  last := hs.last

/-- A declaration in parts: its name, blanks, the paren that ends the name and what follows. Behind
the name the brace at the end is found whatever stands before. -/
theorem exists_name_split {after name afterName : List Char}
    (hexported : ∃ c ∈ after.head?, Declaration.isExported c = true)
    (hcut : Method.cutOpen? 0 (Declaration.dropBrace after) = some (name, afterName)) :
    ∃ blank tail, AllBlank blank ∧ after = trim name ++ (blank ++ '(' :: tail) ∧
      ∀ front, Declaration.dropBrace (front ++ '(' :: tail) = front ++ '(' :: afterName := by
  obtain ⟨hdeclaration, -, -⟩ := Method.cutOpen?_eq_some_iff.mp hcut
  obtain ⟨cutOff, hafter⟩ := Declaration.dropBrace_prefix after
  rw [hdeclaration, List.append_assoc, List.cons_append] at hafter
  have hbrace (front : List Char) :=
    Declaration.dropBrace_append_cons (by decide : isBlank '(' = false) (by decide) front
      (afterName ++ cutOff)
  have hgroups : Declaration.dropBrace ('(' :: (afterName ++ cutOff)) = '(' :: afterName := by
    rw [← hafter, hbrace] at hdeclaration
    exact List.append_cancel_left hdeclaration
  have htrim : trim name = trimRight name := by
    rw [trim, trimLeft_eq_self]
    intro c hc
    obtain ⟨d, hd, hexported⟩ := hexported
    rw [← hafter, List.head?_append, Option.mem_def.mp hc, Option.some_or] at hd
    obtain rfl := Option.some.inj hd
    exact Declaration.isBlank_of_isExported hexported
  obtain ⟨blank, hblank, hname⟩ := exists_trimRight_append name
  refine ⟨blank, afterName ++ cutOff, hblank, ?_, fun front => ?_⟩
  · rw [← hafter, htrim, ← List.append_assoc, ← hname]
  · rw [hbrace, hgroups]

/-- What stands around a name in a line that declares it: `before` is passed over, and behind the
name come blanks, the paren that ends it and a tail that is `afterName` without the brace. -/
structure Surrounds (before blank tail afterName : List Char) : Prop where
  /-- The declaration does not begin before the name. -/
  passes : Passes Declaration.begins 0 before
  /-- The name stands outside parens. -/
  outside : depth before ≤ 0
  /-- Only blanks part the name from its paren. -/
  blank : AllBlank blank
  /-- The brace is found behind the name. -/
  brace : ∀ front, Declaration.dropBrace (front ++ '(' :: tail) = front ++ '(' :: afterName

/-- The name before the blanks and the paren begins with the exported letter of the line. -/
theorem exported_of_append {name blank tail : List Char} (hblank : AllBlank blank)
    (hexported : ∃ c ∈ (name ++ (blank ++ '(' :: tail)).head?, Declaration.isExported c = true) :
    ∃ c ∈ name.head?, Declaration.isExported c = true := by
  obtain ⟨c, hc, hexported⟩ := hexported
  cases name with
  | cons d name => exact ⟨c, hc, hexported⟩
  | nil =>
    cases blank with
    | nil =>
      obtain rfl : '(' = c := Option.some.inj hc
      exact absurd hexported (by decide)
    | cons b blank =>
      obtain rfl : b = c := Option.some.inj hc
      have hb := hblank b (by simp)
      rw [Declaration.isBlank_of_isExported hexported] at hb
      exact absurd hb (by decide)

/-- A method worth comparing has a name and parameters enough. -/
theorem Method.isCandidate_iff {m : Method} {minParams : Int} :
    m.isCandidate minParams = true ↔ m.name ≠ "" ∧ max minParams 1 ≤ m.params.length := by
  simp only [isCandidate, Bool.and_eq_true, bne_iff_ne, decide_eq_true_eq]

/-- A method without parameters is not worth comparing. -/
theorem Method.params_ne_nil_of_isCandidate {m : Method} {minParams : Int}
    (hworth : m.isCandidate minParams = true) : m.params ≠ [] := by
  intro hnil
  have henough := (isCandidate_iff.mp hworth).2
  rw [hnil, List.length_nil] at henough
  omega

/-- The line of a candidate in parts. Its parameters and results stand behind its name. -/
theorem exists_surrounds_of_candidate {checker : Checker} {text : String} {found : Declaration}
    {m : Method} (hcandidate : checker.candidate? text = some (found, m)) :
    ∃ before blank tail afterName, Surrounds before blank tail afterName ∧
      text.toList = before ++ (m.name.toList ++ (blank ++ '(' :: tail)) ∧
      found.offset = before.length ∧
      (∃ c ∈ m.name.toList.head?, Declaration.isExported c = true) ∧
      m.params = (Method.groups afterName).1 ∧ m.returns = (Method.groups afterName).2 := by
  obtain ⟨-, hlocate, hparse, hworth⟩ := Checker.candidate?_eq_some_iff.mp hcandidate
  obtain ⟨before, after, hcut, rfl⟩ := Declaration.locate?_eq_some_iff.mp hlocate
  obtain ⟨htext, hpasses, c, hc, hbegins⟩ := Declaration.cut?_eq_some_iff.mp hcut
  obtain ⟨houtside, hexported⟩ : depth before ≤ 0 ∧ Declaration.isExported c = true := by
    simpa [Declaration.begins] using hbegins
  have hparams : (Method.parse (String.ofList (Declaration.dropBrace after))).params ≠ [] := by
    rw [← hparse]
    exact Method.params_ne_nil_of_isCandidate hworth
  obtain ⟨name, afterName, hopen⟩ := Method.exists_cutOpen?_of_params_ne_nil hparams
  rw [Method.parse_of_cutOpen? hopen] at hparse
  rw [String.toList_ofList] at hopen
  obtain ⟨blank, tail, hblank, hafter, hbrace⟩ := exists_name_split ⟨c, hc, hexported⟩ hopen
  rw [hafter] at hc
  have hname : m.name.toList = trim name := by rw [hparse, String.toList_ofList]
  refine ⟨before, blank, tail, afterName, ⟨hpasses, houtside, hblank, hbrace⟩, ?_, rfl, ?_, ?_⟩
  · rw [hname, htext, hafter]
  · rw [hname]
    exact exported_of_append hblank ⟨c, hc, hexported⟩
  · rw [hparse]
    exact ⟨rfl, rfl⟩

/-- Any name between the same surroundings is declared there. -/
theorem Surrounds.locate? {before blank tail afterName name : List Char}
    (h : Surrounds before blank tail afterName) (hname : IsName name) :
    Declaration.locate? (String.ofList (before ++ (name ++ (blank ++ '(' :: tail)))) =
      some ⟨before.length, String.ofList (name ++ blank ++ '(' :: afterName)⟩ := by
  refine Declaration.locate?_eq_some_iff.mpr
    ⟨before, name ++ (blank ++ '(' :: tail), ?_, ?_⟩
  · rw [String.toList_ofList]
    exact Declaration.cut?_before_name h.passes h.outside hname.exported _
  · rw [← List.append_assoc, h.brace]

/-- The groups are read the same whatever name stands before them. -/
theorem parse_name_append {name blank : List Char} (hname : IsName name) (hblank : AllBlank blank)
    (afterName : List Char) :
    Method.parse (String.ofList (name ++ blank ++ '(' :: afterName)) =
      ⟨String.ofList (name ++ blank ++ '(' :: afterName), String.ofList name,
        (Method.groups afterName).1, (Method.groups afterName).2⟩ := by
  have hopen := Method.cutOpen?_parenFree (hname.parenFree.append hblank.parenFree) afterName
  have htrim : trim (name ++ blank) = name := trim_between_blanks allBlank_nil hname.trimmed hblank
  rw [Method.parse_of_cutOpen? (by rw [String.toList_ofList]; exact hopen), htrim]

/-- A line that begins with the keyword and has a name between such surroundings declares the method
of that name, if the group behind it has parameters enough. -/
theorem Surrounds.exists_candidate {checker : Checker} {before blank tail afterName : List Char}
    (h : Surrounds before blank tail afterName) {name : String} (hname : IsName name.toList)
    (hstarts : Declaration.startsWithKeyword
      (String.ofList (before ++ (name.toList ++ (blank ++ '(' :: tail)))) checker.keyword = true)
    (henough : max (checker.minParams : Int) 1 ≤ (Method.groups afterName).1.length) :
    ∃ found m, checker.candidate?
        (String.ofList (before ++ (name.toList ++ (blank ++ '(' :: tail)))) = some (found, m) ∧
      found.offset = before.length ∧ m.name = name ∧ m.params = (Method.groups afterName).1 ∧
      m.returns = (Method.groups afterName).2 := by
  have hparse := parse_name_append hname h.blank afterName
  rw [String.ofList_toList] at hparse
  refine ⟨_, _, Checker.candidate?_eq_some_iff.mpr
    ⟨hstarts, h.locate? hname, rfl, ?_⟩, rfl, ?_⟩
  · rw [hparse, Method.isCandidate_iff]
    obtain ⟨c, hc, -⟩ := hname.exported
    refine ⟨?_, henough⟩
    rintro rfl
    simp at hc
  · rw [hparse]
    exact ⟨rfl, rfl, rfl⟩

/-- A line with a candidate has one at the same place, with the same parameters and results, once
another name stands in place of the candidate's own. -/
theorem exists_candidate_of_replaced {checker : Checker}
    (hkeyword : Declaration.ExportFree checker.keyword.toList) {text : String}
    {found : Declaration} {m : Method} (hcandidate : checker.candidate? text = some (found, m))
    {name : String} (hname : IsName name.toList) :
    ∃ found' m', checker.candidate? (String.ofList (text.toList.take found.offset ++ name.toList ++
        text.toList.drop (found.offset + m.name.length))) = some (found', m') ∧
      found'.offset = found.offset ∧ m'.name = name ∧ m'.params = m.params ∧
      m'.returns = m.returns := by
  obtain ⟨before, blank, tail, afterName, hsurrounds, htext, hoffset, hexported, hparams,
    hreturns⟩ := exists_surrounds_of_candidate hcandidate
  obtain ⟨hstarts, -, -, hworth⟩ := Checker.candidate?_eq_some_iff.mp hcandidate
  have hreplaced : text.toList.take found.offset ++ name.toList ++
      text.toList.drop (found.offset + m.name.length) =
        before ++ (name.toList ++ (blank ++ '(' :: tail)) := by
    rw [htext, hoffset, List.take_left, ← String.length_toList, ← List.drop_drop, List.drop_left,
      List.drop_left, List.append_assoc]
  have hstarts' : Declaration.startsWithKeyword
      (String.ofList (before ++ (name.toList ++ (blank ++ '(' :: tail)))) checker.keyword := by
    rw [Declaration.startsWithKeyword_append hkeyword hname.exported,
      ← Declaration.startsWithKeyword_append hkeyword hexported before (blank ++ '(' :: tail),
      ← htext, String.ofList_toList]
    exact hstarts
  have henough := (Method.isCandidate_iff.mp hworth).2
  rw [hparams] at henough
  rw [hreplaced, hoffset, hparams, hreturns]
  exact hsurrounds.exists_candidate hname hstarts' henough

/-- A method that is named like a suggestion for its shape gets no suggestion. -/
theorem Suggestion.forMethod_eq_nil_of_target {corpus : List InterfaceMethod} {m m' : Method}
    {s : Suggestion} (hs : s ∈ forMethod (Index.build corpus) m) (hkey : m'.key = m.key)
    (hname : m'.name = s.targetName) : forMethod (Index.build corpus) m' = [] := by
  obtain ⟨entry, hentry, htarget⟩ := exists_entry_of_mem_ofBucket (mem_forMethod_build_iff.mp hs).2
  have hown : ∃ entry ∈ sameShape corpus m', entry.name = m'.name := by
    rw [sameShape, hkey, hname]
    exact ⟨entry, hentry, htarget⟩
  rw [forMethod_build, if_pos hown]

/-- Taking up a suggestion settles the line: with the proposed name in place of the old one nothing
is said about it, and not because the line is no longer read, for the method is found at the same
place under its new name. -/
theorem Command.line_renamed (settings : Settings) (corpus : Corpus)
    (hkeyword : Declaration.ExportFree settings.declarationKeyword.toList)
    {text : String} {number : Int} {diagnostics : List Diagnostic}
    (hline : (checkerOf settings corpus).line text number = .ok diagnostics) {d : Diagnostic}
    (hd : d ∈ diagnostics) (htarget : IsName d.suggestion.targetName.toList) (again : Int) :
    (checkerOf settings corpus).line (d.renamed text) again = .ok [] ∧
      ∃ found m, (checkerOf settings corpus).candidate? (d.renamed text) = some (found, m) ∧
        found.offset = d.start ∧ m.name = d.suggestion.targetName := by
  have hindex : (checkerOf settings corpus).index = Index.build corpus := rfl
  obtain ⟨found, m, hcandidate, s, hs, rfl⟩ := Checker.exists_candidate_of_mem_line hindex hline hd
  obtain ⟨found', m', hrenamed, hoffset, hname, hparams, hreturns⟩ :=
    exists_candidate_of_replaced hkeyword hcandidate htarget
  have hkey : m'.key = m.key := by rw [Method.key, Method.key, hparams, hreturns]
  have hnone : Suggestion.forMethod (checkerOf settings corpus).index m' = [] := by
    rw [hindex] at hs ⊢
    exact Suggestion.forMethod_eq_nil_of_target hs hkey hname
  have hsettled := Checker.line_eq_nil_of_candidate hrenamed hnone again
  exact ⟨hsettled, found', m', hrenamed, hoffset, hname⟩

/-- The corpus of one interface. -/
def writerCorpus : Corpus :=
  [.ofSignature "io" "WriterTo" "WriteTo(w Writer) (n int64, err error)"]

/-- A line with a misspelt name behind a paren too many. -/
def writeTwoLine : String :=
  "func (b *Buffer)) WriteTwo (w Writer) (int64, error) \x7b"

/-- What is said about that line. -/
def writeTwoDiagnostic : Diagnostic where
  line := 3
  start := 18
  stop := 26
  methodName := "WriteTwo"
  suggestion := ⟨"WriteTo", [⟨"io", "WriterTo"⟩]⟩
  message := "This almost conforms to the io.WriterTo interface, but the method name should be " ++
    "'WriteTo'"
  code := Diagnostic.possibleRename

/-- A method that was renamed as suggested gets no suggestion any more. -/
theorem Command.line_renamed_writeTwo :
    (checkerOf {} writerCorpus).line writeTwoLine 3 = .ok [writeTwoDiagnostic] ∧
      IsName "WriteTo".toList ∧
      writeTwoDiagnostic.renamed writeTwoLine =
        "func (b *Buffer)) WriteTo (w Writer) (int64, error) \x7b" ∧
      (checkerOf {} writerCorpus).line (writeTwoDiagnostic.renamed writeTwoLine) 3 = .ok [] := by
  have hline : (checkerOf {} writerCorpus).line writeTwoLine 3 = .ok [writeTwoDiagnostic] := rfl
  have hname : IsName writeTwoDiagnostic.suggestion.targetName.toList := by decide
  have hrenamed := line_renamed {} writerCorpus (by decide) hline List.mem_cons_self hname 3
  exact ⟨hline, hname, rfl, hrenamed.1⟩

end NearMiss
