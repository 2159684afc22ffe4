import NearMiss.Proofs.Documents
import NearMiss.Proofs.Extraction
import NearMiss.Proofs.Harvest
import NearMiss.Proofs.ShapeKey

/-!
# Dropping entries before or after

The least number of parameters is asked for twice: when a corpus is harvested and when a line is
checked. The two agree, because a key tells how many parameters a shape has. An entry that is
dropped from the corpus has too few of them, so it never has the key of a method that is compared.
-/

namespace NearMiss

/-! ## Entries and candidates of one key -/

/-- An entry that can be told from others by its key: it has a name, and its types are found again
in the key. -/
structure InterfaceMethod.Legible (entry : InterfaceMethod) : Prop where
  /-- It has a name. -/
  name_ne_empty : entry.name ≠ ""
  /-- Its types can be told apart in its key. -/
  wellTyped : entry.WellTyped

instance (entry : InterfaceMethod) : Decidable entry.Legible :=
  decidable_of_iff (entry.name ≠ "" ∧ entry.WellTyped)
    ⟨fun h => ⟨h.1, h.2⟩, fun h => ⟨h.name_ne_empty, h.wellTyped⟩⟩

/-- A key tells how many parameters there are. -/
theorem Method.WellTyped.length_params_eq {m m' : Method} (hm : m.WellTyped) (hm' : m'.WellTyped)
    (hkey : m.key = m'.key) : m.params.length = m'.params.length := by
  have htypes := congrArg (fun types => types.1.length) (hm.types_eq_of_key_eq hm' hkey)
  simpa [types] using htypes

/-- An entry with the key of a candidate is one itself. -/
theorem InterfaceMethod.Legible.isCandidate {entry : InterfaceMethod} (hentry : entry.Legible)
    {m : Method} (hm : m.WellTyped) (hkey : entry.key = m.key) {minParams : Int}
    (hworth : m.isCandidate minParams = true) : entry.isCandidate minParams = true := by
  have hlength := hentry.wellTyped.length_params_eq hm hkey
  have henough := (Method.isCandidate_iff.mp hworth).2
  rw [← hlength] at henough
  exact Method.isCandidate_iff.mpr ⟨hentry.name_ne_empty, henough⟩

/-- The entries that are not worth comparing are missing from no bucket that is asked for. -/
theorem sameShape_filter_isCandidate {corpus : List InterfaceMethod}
    (hcorpus : ∀ entry ∈ corpus, entry.Legible) {m : Method} (hm : m.WellTyped) {minParams : Int}
    (hworth : m.isCandidate minParams = true) :
    sameShape (corpus.filter fun entry => entry.isCandidate minParams) m = sameShape corpus m := by
  rw [sameShape, sameShape, List.filter_filter]
  refine List.filter_congr fun entry hentry => ?_
  by_cases hkey : entry.key = m.key
  · have hkept := (hcorpus entry hentry).isCandidate hm hkey hworth
    rw [hkept, Bool.and_true]
  · rw [decide_eq_false hkey, Bool.false_and]

/-- For a method worth comparing, only entries that are worth comparing matter. -/
theorem Suggestion.forMethod_build_filter {corpus : List InterfaceMethod}
    (hcorpus : ∀ entry ∈ corpus, entry.Legible) {m : Method} (hm : m.WellTyped) {minParams : Int}
    (hworth : m.isCandidate minParams = true) :
    forMethod (Index.build (corpus.filter fun entry => entry.isCandidate minParams)) m =
      forMethod (Index.build corpus) m := by
  rw [forMethod_build, forMethod_build, sameShape_filter_isCandidate hcorpus hm hworth]

/-! ## Documents -/

/-- The methods that a checker compares in a document have types that can be told apart. -/
def Checker.ReadsWellTyped (checker : Checker) (text : String) : Prop :=
  ∀ row ∈ Text.lines text.toList, ∀ candidate ∈ checker.candidate? (String.ofList row),
    candidate.2.WellTyped

instance (checker : Checker) (text : String) : Decidable (checker.ReadsWellTyped text) :=
  inferInstanceAs (Decidable (∀ row ∈ Text.lines text.toList,
    ∀ candidate ∈ checker.candidate? (String.ofList row), candidate.2.WellTyped))

/-- Two checkers that compare the same methods and suggest the same about them say the same about
lines. -/
theorem Checker.linesFrom_congr {checker other : Checker} {rows : List (List Char)}
    (hcandidate : ∀ text, checker.candidate? text = other.candidate? text)
    (hsuggest : ∀ row ∈ rows, ∀ candidate ∈ checker.candidate? (String.ofList row),
      Suggestion.forMethod checker.index candidate.2 =
        Suggestion.forMethod other.index candidate.2)
    (number : Nat) : checker.linesFrom number rows = other.linesFrom number rows := by
  induction rows generalizing number with
  | nil => rfl
  | cons row later ih =>
    have hrow : checker.line (String.ofList row) number =
        other.line (String.ofList row) number := by
      rw [line, line, ← hcandidate]
      cases hfound : checker.candidate? (String.ofList row) with
      | none => rfl
      | some candidate =>
        dsimp only
        rw [hsuggest row List.mem_cons_self candidate hfound]
    have hlater := ih (fun row' hrow' => hsuggest row' (List.mem_cons_of_mem row hrow'))
    rw [linesFrom, linesFrom, hrow, hlater]

namespace Command

/-- In a whole source, only entries that are worth comparing matter. -/
theorem source_checkerOf_filter {settings : Settings} {corpus : Corpus}
    (hcorpus : ∀ entry ∈ corpus, entry.Legible) {text : String}
    (htext : (checkerOf settings corpus).ReadsWellTyped text) :
    (checkerOf settings (corpus.filter fun entry => entry.isCandidate settings.minParams)).source
        text = (checkerOf settings corpus).source text := by
  rw [Checker.source, Checker.source]
  symm
  -- The index takes no part in what is compared, so the candidates are the same.
  refine Checker.linesFrom_congr ?_ ?_ 0
  · intro row
    rfl
  · intro row hrow candidate hfound
    have hm := htext row hrow candidate hfound
    have hworth := (Checker.candidate?_eq_some_iff.mp hfound).2.2.2
    exact (Suggestion.forMethod_build_filter hcorpus hm hworth).symm

end Command

/-! ## Harvests -/

namespace Harvest

variable {settings : Settings} {less : Nat}

/-- To ask for more parameters drops the methods of a file that have fewer. -/
theorem scan_of_le (hle : less ≤ settings.minParams) (file : SourceFile) :
    file.scan settings.minParams =
      (file.scan less).map (List.filter fun r => r.isCandidate settings.minParams) := by
  rw [SourceFile.scan, SourceFile.scan]
  cases file.octets with
  | error error => rfl
  | ok octets =>
    dsimp only
    rw [Go.Interface.extract_of_le (Int.ofNat_le.mpr hle)]
    cases Go.Interface.extract file.package less octets with
    | error error => rfl
    | ok methods => rfl

/-- A higher limit keeps those methods of a file that reach it. -/
theorem methods_ofFiles_singleton_of_le (hle : less ≤ settings.minParams) (file : SourceFile) :
    (ofFiles settings [file]).methods =
      (ofFiles { settings with minParams := less } [file]).methods.filter
        fun r => r.isCandidate settings.minParams := by
  simp only [ofFiles, List.foldl_cons, List.foldl_nil, gather, scan_of_le hle]
  split
  · cases file.scan less with
    | error skipped => rfl
    | ok methods => rfl
  · rfl

/-- A harvest that asks for more parameters is the other one without the methods that have fewer. -/
theorem methods_ofFiles_of_le (hle : less ≤ settings.minParams) (files : List SourceFile) :
    (ofFiles settings files).methods =
      (ofFiles { settings with minParams := less } files).methods.filter
        fun r => r.isCandidate settings.minParams := by
  induction files with
  | nil => rfl
  | cons file later ih =>
    simp only [ofFiles_cons file later, append_def]
    rw [methods_ofFiles_singleton_of_le hle, ih, List.filter_append]

/-- Every harvested method has a name. -/
theorem name_ne_empty_of_mem_ofFiles {files : List SourceFile} {r : InterfaceMethod}
    (hr : r ∈ (ofFiles settings files).methods) : r.name ≠ "" := by
  obtain ⟨file, -, -, methods, ⟨octets, -, hextract⟩, hr⟩ := exists_yields_of_mem_ofFiles hr
  obtain ⟨declared, -, hrecord⟩ := Go.Interface.exists_records_of_mem_extract hextract hr
  exact (Method.isCandidate_iff.mp hrecord.worth).1

end Harvest

/-- To drop the entries of a corpus that are not worth comparing changes no suggestion about a
method that is, and so nothing that is said about a document. Therefore it does not matter whether
methods with too few parameters are harvested: the checker says the same with the corpus that was
harvested under its own settings as with one for which fewer parameters were asked. -/
theorem Command.source_unchanged_by_dropping :
    (∀ (minParams : Int) (corpus : Corpus) (m : Method), (∀ entry ∈ corpus, entry.Legible) →
      m.WellTyped → m.isCandidate minParams = true →
        Suggestion.forMethod (Index.build corpus) m =
          Suggestion.forMethod
            (Index.build (corpus.filter fun entry => entry.isCandidate minParams)) m) ∧
    (∀ (settings : Settings) (corpus : Corpus) (text : String),
      (∀ entry ∈ corpus, entry.Legible) → (checkerOf settings corpus).ReadsWellTyped text →
        (checkerOf settings corpus).source text =
          (checkerOf settings
            (corpus.filter fun entry => entry.isCandidate settings.minParams)).source text) ∧
    ∀ (settings : Settings) (less : Nat) (files : List SourceFile) (text : String),
      let loose := (Harvest.ofFiles { settings with minParams := less } files).methods
      less ≤ settings.minParams → (∀ entry ∈ loose, entry.WellTyped) →
        (checkerOf settings loose).ReadsWellTyped text →
          (checkerOf settings loose).source text =
            (checkerOf settings (Harvest.ofFiles settings files).methods).source text := by
  refine ⟨?_, ?_, ?_⟩
  · intro minParams corpus m hcorpus hm hworth
    exact (Suggestion.forMethod_build_filter hcorpus hm hworth).symm
  · intro settings corpus text hcorpus htext
    exact (source_checkerOf_filter hcorpus htext).symm
  · intro settings less files text loose hle htypes htext
    have hlegible : ∀ entry ∈ loose, entry.Legible := fun entry hentry =>
      ⟨Harvest.name_ne_empty_of_mem_ofFiles hentry, htypes entry hentry⟩
    rw [Harvest.methods_ofFiles_of_le hle]
    exact (source_checkerOf_filter hlegible htext).symm

/-- The source of an interface with a method of two parameters and one of a single parameter. -/
def pairFile : SourceFile :=
  ⟨"pair.go", ["pair.go"], .ok (Text.encode
    "type Pair interface \x7b Swap(f func(a, b T), n T); Flip(n T) \x7d".toList)⟩

/-- What is harvested from it if one parameter is enough. -/
def pairCorpus : Corpus :=
  [⟨⟨"Swap(f func(a, b T), n T)", "Swap",
      [⟨some "f", "func(a, b T)", false, false⟩, ⟨some "n", "T", false, false⟩], []⟩, "Pair", ""⟩,
    ⟨⟨"Flip(n T)", "Flip", [⟨some "n", "T", false, false⟩], []⟩, "Pair", ""⟩]

/-- A document with a method of the first shape. -/
def pairText : String :=
  "//\nfunc (t T) Turn(f func(a, b T), k T) \x7b\n"

/-- Dropping an entry with one parameter changes nothing where two are asked for. -/
theorem Command.source_unchanged_by_dropping_pair :
    let strict : Settings := { minParams := 2 }
    let m := Method.parse "Turn(f func(a, b T), k T)"
    (∀ entry ∈ pairCorpus, entry.Legible) ∧ m.WellTyped ∧ m.isCandidate 2 = true ∧
      Suggestion.forMethod (Index.build pairCorpus) m =
        Suggestion.forMethod (Index.build (pairCorpus.filter fun entry => entry.isCandidate 2)) m ∧
      (Harvest.ofFiles { strict with minParams := 1 } [pairFile]).methods = pairCorpus ∧
      (checkerOf strict pairCorpus).ReadsWellTyped pairText ∧
      (checkerOf strict pairCorpus).source pairText =
        (checkerOf strict (pairCorpus.filter fun entry => entry.isCandidate 2)).source pairText ∧
      (checkerOf strict pairCorpus).source pairText =
        (checkerOf strict (Harvest.ofFiles strict [pairFile]).methods).source pairText := by
  intro strict m
  obtain ⟨hmatch, hcheck, hharvest⟩ := source_unchanged_by_dropping
  have hlegible : ∀ entry ∈ pairCorpus, entry.Legible := by decide +kernel
  have hm : m.WellTyped := by decide +kernel
  have hworth : m.isCandidate 2 = true := by decide +kernel
  have hloose : (Harvest.ofFiles { strict with minParams := 1 } [pairFile]).methods =
      pairCorpus := by decide +kernel
  have htext : (checkerOf strict pairCorpus).ReadsWellTyped pairText := by decide +kernel
  have hchecked := hharvest strict 1 [pairFile] pairText (by decide)
  rw [hloose] at hchecked
  exact ⟨hlegible, hm, hworth, hmatch 2 pairCorpus m hlegible hm hworth, hloose, htext,
    hcheck strict pairCorpus pairText hlegible htext,
    hchecked (fun entry hentry => (hlegible entry hentry).wellTyped) htext⟩

end NearMiss
