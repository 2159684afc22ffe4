import NearMiss.Command.Run
import NearMiss.Proofs.Faults
import NearMiss.Proofs.JsonNumber
import NearMiss.Proofs.Lines
import NearMiss.Proofs.Markup
import NearMiss.Proofs.Script
import NearMiss.Proofs.Utf8

/-!
# Loading a corpus

A corpus file that can be read holds a corpus, or loading it fails. Most failures come with a
report, and a command that needs the corpus then ends with an error line. Two failures have none and
end the command where it stands: octets that are no text, and a whole number with too many digits.
-/

namespace NearMiss

open Text

/-! ## Digits and line ends -/

namespace Json

/-- No whole number in the text can have too many digits. -/
def FewDigits (s : List Char) : Prop :=
  ∀ count, ¬Oversized count s

/-- A short text has no number with too many digits. -/
theorem FewDigits.of_length_le {s : List Char} (h : s.length ≤ maxDigits) : FewDigits s := by
  rintro count ⟨hlong, run, hinfix, hlength, -⟩
  have hle := hinfix.length_le
  omega

/-- A run of digits in front is not touched when line ends are. -/
theorem prefix_of_prefix_normalizeNewlines {run s : List Char}
    (hrun : ∀ c ∈ run, c.isDigit = true) (h : run <+: normalizeNewlines s) : run <+: s := by
  -- A run that is not empty begins with a digit, and digits are kept.
  fun_induction normalizeNewlines s generalizing run with
  | case1 => exact h
  | case2 rest ih =>
    rcases List.prefix_cons_iff.mp h with rfl | ⟨later, rfl, -⟩
    · exact List.nil_prefix
    · exact absurd (hrun '\n' List.mem_cons_self) (by decide)
  | case3 c rest _ ih =>
    rcases List.prefix_cons_iff.mp h with rfl | ⟨later, rfl, hlater⟩
    · exact List.nil_prefix
    · obtain ⟨hfirst, hdigits⟩ := List.forall_mem_cons.mp hrun
      by_cases hreturn : c = '\r'
      · rw [if_pos hreturn] at hfirst
        exact absurd hfirst (by decide)
      · rw [if_neg hreturn]
        exact List.cons_prefix_cons.mpr ⟨rfl, ih hdigits hlater⟩

/-- A run of digits is not touched when line ends are. -/
theorem infix_of_infix_normalizeNewlines {run s : List Char}
    (hrun : ∀ c ∈ run, c.isDigit = true) (h : run <:+: normalizeNewlines s) : run <:+: s := by
  fun_induction normalizeNewlines s with
  | case1 => exact h
  | case2 rest ih =>
    rcases List.infix_cons_iff.mp h with hfront | hlater
    · rcases List.prefix_cons_iff.mp hfront with rfl | ⟨later, rfl, -⟩
      · exact List.nil_infix
      · exact absurd (hrun '\n' List.mem_cons_self) (by decide)
    · exact List.infix_cons (List.infix_cons (ih hlater))
  | case3 c rest hcrlf ih =>
    rcases List.infix_cons_iff.mp h with hfront | hlater
    · have hwhole : run <+: normalizeNewlines (c :: rest) := by
        rwa [normalizeNewlines]
        exact hcrlf
      exact (prefix_of_prefix_normalizeNewlines hrun hwhole).isInfix
    · exact List.infix_cons (ih hlater)

/-- Line ends are normalised before a text is read. This makes no number longer. -/
theorem FewDigits.normalizeNewlines {s : List Char} (h : FewDigits s) :
    FewDigits (normalizeNewlines s) := by
  rintro count ⟨hlong, run, hinfix, hlength, hdigits⟩
  exact h count ⟨hlong, run, infix_of_infix_normalizeNewlines hdigits hinfix, hlength, hdigits⟩

end Json

/-! ## Reports -/

namespace Corpus

/-- The summaries under which a text that is no corpus is reported. -/
def summaries : List String :=
  ["Invalid JSON format", "Corpus validation failed"]

/-- The report is about a text that is no corpus, and its details have no brackets. -/
structure Report.Sound (report : Report) : Prop where
  summary_mem : report.summary ∈ summaries
  details : '[' ∉ report.details.toList

/-- No flaw is worded with a bracket. -/
theorem not_mem_flaw (flaw : Json.Flaw) : '[' ∉ flaw.message.toList := by
  cases flaw <;> decide

/-- The report about a flaw can be printed. -/
theorem malformed_sound (line column : Nat) (flaw : Json.Flaw) :
    Report.Sound ⟨"Invalid JSON format", s!"Line {line}, column {column}: {flaw.message}"⟩ := by
  refine ⟨List.mem_cons_self, ?_⟩
  simp only [String.toList_append, List.mem_append, not_or]
  exact ⟨⟨⟨⟨⟨by decide, bracket_not_mem_toString line⟩, by decide⟩,
    bracket_not_mem_toString column⟩, by decide⟩, not_mem_flaw flaw⟩

/-- A text that is no corpus is reported, unless a number in it has too many digits. -/
theorem report_of_ofText {text : String} {error : ReadError} (h : ofText text = .error error) :
    (∃ report, error.report? = some report ∧ report.Sound) ∨
      ∃ count, error = .tooManyDigits count ∧ Json.Oversized count text.toList := by
  unfold ofText at h
  split at h
  · cases h
    exact .inl ⟨_, rfl, malformed_sound _ _ _⟩
  · next count hparse =>
    cases h
    exact .inr ⟨count, rfl, Json.oversized_of_parse hparse⟩
  · split at h
    · cases h
    · next faults hfaults =>
      cases h
      exact .inl ⟨_, rfl, by simp [summaries], not_mem_describe_ofJson hfaults⟩

variable {files : FileTree} {path : Path} {text : String}

/-- A file that is read as a corpus is loaded. -/
theorem load_of_ofText_ok (hread : files.read path = .ok text.toUTF8.data.toList) {corpus : Corpus}
    (h : ofText (String.ofList (normalizeNewlines text.toList)) = .ok corpus) :
    load files path = .ok corpus := by
  simp only [load, hread, ofOctets, ← encode_toList, decode_encode, h]

/-- A file that is refused is not loaded, for the same reason. -/
theorem load_of_ofText_error (hread : files.read path = .ok text.toUTF8.data.toList)
    {error : ReadError}
    (h : ofText (String.ofList (normalizeNewlines text.toList)) = .error error) :
    load files path = .error (.unacceptable error) := by
  simp only [load, hread, ofOctets, ← encode_toList, decode_encode, h]

/-- Loading a text without overlong numbers gives a corpus or fails with a report. -/
theorem load_of_fewDigits (hread : files.read path = .ok text.toUTF8.data.toList)
    (hdigits : Json.FewDigits text.toList) :
    (∃ corpus, load files path = .ok corpus) ∨
      ∃ error report, load files path = .error error ∧ error.report? = some report ∧
        report.Sound := by
  cases hread' : ofText (String.ofList (normalizeNewlines text.toList)) with
  | ok corpus => exact .inl ⟨corpus, load_of_ofText_ok hread hread'⟩
  | error error =>
    rcases report_of_ofText hread' with ⟨report, hreport, hsound⟩ | ⟨count, -, hlong⟩
    · exact .inr ⟨_, report, load_of_ofText_error hread hread', hreport, hsound⟩
    · rw [String.toList_ofList] at hlong
      exact absurd hlong (hdigits.normalizeNewlines count)

/-- Octets that are no text cannot be loaded. -/
theorem load_of_not_text {octets : List UInt8} (hread : files.read path = .ok octets)
    (hoctets : ∀ text : String, octets ≠ text.toUTF8.data.toList) :
    ∃ error, load files path = .error (.undecodable error) := by
  obtain ⟨error, herror⟩ := exists_decode_eq_error_iff.mpr hoctets
  exact ⟨error, by simp only [load, hread, ofOctets, herror]⟩

/-- A file with nothing but a number of too many digits cannot be loaded. -/
theorem load_of_digits {c : Char} {digits : List Char} (hc : c ≠ '0')
    (hdigits : ∀ d ∈ c :: digits, d.isDigit = true)
    (hlong : Json.maxDigits < (c :: digits).length)
    (hread : files.read path = .ok (String.ofList (c :: digits)).toUTF8.data.toList) :
    load files path = .error (.unacceptable (.tooManyDigits (c :: digits).length)) := by
  have hreturn : '\r' ∉ c :: digits := fun hmem => absurd (hdigits _ hmem) (by decide)
  refine load_of_ofText_error hread ?_
  rw [String.toList_ofList, normalizeNewlines_eq_self hreturn, ofText,
    Json.parse_digits hc hdigits hlong]

end Corpus

namespace Command

open Corpus

/-! ## Commands that need a corpus -/

/-- The command takes its corpus from the file at the path: it is given, or else it is set. -/
def TakesCorpusAt (world : World) (corpus : Option Path) (path : Path) : Prop :=
  ∃ settings, world.settings = .ok settings ∧
    (corpus.orElse fun _ => settings.corpusPath) = some path

/-- A corpus that cannot be loaded ends the command with its failure. -/
theorem withChecker_of_load_error {world : World} {corpus : Option Path} {path : Path}
    (htakes : TakesCorpusAt world corpus path) {error : LoadError}
    (hload : load world.files path = .error error) (script : Checker → Script) :
    withChecker world corpus script = corpusFailure error := by
  obtain ⟨settings, hsettings, hpath⟩ := htakes
  simp only [withChecker, hsettings, corpusOf, hpath, hload]

/-- A sound report is printed as an error line and its details. -/
theorem run_corpusFailure_of_sound {error : LoadError} {report : Report}
    (hreport : error.report? = some report) (hsound : report.Sound) (files : FileTree) :
    ∃ details, (corpusFailure error).run files =
      ⟨1, "", s!"Error: Failed to load corpus: {report.summary}\n" ++ details, none, files⟩ := by
  have hline : Console.printed s!"[red]Error:[/red] Failed to load corpus: {report.summary}" =
      .ok s!"Error: Failed to load corpus: {report.summary}\n" := by
    have hsummary := hsound.summary_mem
    simp only [summaries, List.mem_cons, List.not_mem_nil, or_false] at hsummary
    rcases hsummary with hsummary | hsummary
    · rw [hsummary]
      decide +kernel
    · rw [hsummary]
      decide +kernel
  have hfree : Console.TagFree s!"  {report.details}".toList := by
    refine .of_not_mem ?_
    rw [String.toList_append, List.mem_append, not_or]
    exact ⟨by decide, hsound.details⟩
  obtain ⟨details, hdetails⟩ := hfree.exists_printed
  refine ⟨details, ?_⟩
  rw [corpusFailure, hreport]
  simp only [Script.run, Script.ofSteps, Progress.run, Progress.after, hline, hdetails,
    String.empty_append]

/-- What loading a corpus file that can be read comes to, whatever octets are in it. If they are
those of a text in which no whole number can have too many digits, the file holds a corpus or is
reported, and a command that needs the corpus then prints an error line with the summary of the
report, ends with status one and changes no file. Octets that are no text, and only they, cannot be
decoded, and a number alone with too many digits cannot be read. Such failures have no report: a
command that needs the corpus ends with them and prints nothing. -/
theorem load_reported_or_crashes {world : World} {path : Path} {octets : List UInt8}
    (hread : world.files.read path = .ok octets) :
    (∀ text : String, octets = text.toUTF8.data.toList → Json.FewDigits text.toList →
      (∃ corpus, load world.files path = .ok corpus) ∨
        ∃ error report, load world.files path = .error error ∧ error.report? = some report ∧
          report.summary ∈ summaries ∧
          ∀ corpus script, TakesCorpusAt world corpus path →
            ∃ details, (withChecker world corpus script).run world.files =
              ⟨1, "", s!"Error: Failed to load corpus: {report.summary}\n" ++ details, none,
                world.files⟩) ∧
    ((∃ error, load world.files path = .error (.undecodable error)) ↔
      ∀ text : String, octets ≠ text.toUTF8.data.toList) ∧
    (∀ c digits, c ≠ '0' → (∀ d ∈ c :: digits, d.isDigit = true) →
      Json.maxDigits < (c :: digits).length →
      octets = (String.ofList (c :: digits)).toUTF8.data.toList →
      load world.files path = .error (.unacceptable (.tooManyDigits (c :: digits).length))) ∧
    ∀ error, load world.files path = .error error → error.report? = none →
      ∀ corpus script, TakesCorpusAt world corpus path →
        (withChecker world corpus script).run world.files =
          ⟨1, "", "", some (.corpus error), world.files⟩ := by
  refine ⟨?_, ⟨?_, load_of_not_text hread⟩, ?_, ?_⟩
  · rintro text rfl hdigits
    refine (load_of_fewDigits hread hdigits).imp_right ?_
    rintro ⟨error, report, hload, hreport, hsound⟩
    refine ⟨error, report, hload, hreport, hsound.summary_mem, ?_⟩
    intro corpus script htakes
    rw [withChecker_of_load_error htakes hload script]
    exact run_corpusFailure_of_sound hreport hsound world.files
  · rintro ⟨error, hload⟩ text rfl
    cases hofText : ofText (String.ofList (normalizeNewlines text.toList)) with
    | ok corpus =>
      rw [load_of_ofText_ok hread hofText] at hload
      cases hload
    | error failure =>
      rw [load_of_ofText_error hread hofText] at hload
      cases hload
  · rintro c digits hc hdigits hlong rfl
    exact load_of_digits hc hdigits hlong hread
  · intro error hload hreport corpus script htakes
    rw [withChecker_of_load_error htakes hload script, corpusFailure, hreport]
    exact Script.run_ofCrash _ _

/-- A directory with an empty source file and a corpus file that holds the given octets. -/
def corpusWorld (octets : List UInt8) : World where
  files := ⟨[(["work"], .directory), (["work", "a.go"], .file (.plain [])),
    (["work", "corpus.json"], .file (.plain octets))], ["work"]⟩
  network := fun _ => .failed "no network"

/-- Where its corpus is. -/
def corpusPath : Path := Path.ofString "corpus.json"

/-- The corpus file has the given octets. -/
theorem read_corpusWorld (octets : List UInt8) :
    (corpusWorld octets).files.read corpusPath = .ok octets := rfl

/-- The command takes the corpus file. -/
theorem takesCorpusAt_corpusWorld (octets : List UInt8) :
    TakesCorpusAt (corpusWorld octets) (some corpusPath) corpusPath :=
  ⟨_, rfl, rfl⟩

/-- A record where a list is meant is reported. An octet that begins no sequence and a number of
4301 digits are not. -/
theorem load_reported_or_crashes_instances :
    (∀ script, ∃ details,
      (withChecker (corpusWorld "\x7b\x7d".toUTF8.data.toList) (some corpusPath) script).run
          (corpusWorld "\x7b\x7d".toUTF8.data.toList).files =
        ⟨1, "", "Error: Failed to load corpus: Corpus validation failed\n" ++ details, none,
          (corpusWorld "\x7b\x7d".toUTF8.data.toList).files⟩) ∧
    (∀ text : String, [0xFF] ≠ text.toUTF8.data.toList) ∧
    (∀ script, (withChecker (corpusWorld [0xFF]) (some corpusPath) script).run
        (corpusWorld [0xFF]).files =
      ⟨1, "", "", some (.corpus (.undecodable ⟨0, [0xFF], .startByte⟩)),
        (corpusWorld [0xFF]).files⟩) ∧
    load (corpusWorld (String.ofList ('9' :: List.replicate 4300 '9')).toUTF8.data.toList).files
      corpusPath = .error (.unacceptable (.tooManyDigits 4301)) := by
  have hload : load (corpusWorld [0xFF]).files corpusPath =
      .error (.undecodable ⟨0, [0xFF], .startByte⟩) := rfl
  obtain ⟨-, hdecode, -, hcrash⟩ := load_reported_or_crashes (read_corpusWorld [0xFF])
  refine ⟨fun script => ?_, hdecode.mp ⟨_, hload⟩, fun script => ?_, ?_⟩
  · obtain ⟨hreported, -⟩ :=
      load_reported_or_crashes (read_corpusWorld "\x7b\x7d".toUTF8.data.toList)
    have hfew : Json.FewDigits "\x7b\x7d".toList := .of_length_le (by decide)
    have hload : load (corpusWorld "\x7b\x7d".toUTF8.data.toList).files corpusPath =
        .error (.unacceptable (.invalid [⟨[], .notList⟩])) := rfl
    rcases hreported _ rfl hfew with ⟨corpus, hcorpus⟩ | ⟨error, report, herror, hreport, -, hrun⟩
    · rw [hload] at hcorpus
      cases hcorpus
    · rw [hload] at herror
      cases herror
      cases hreport
      exact hrun _ script (takesCorpusAt_corpusWorld _)
  · exact hcrash _ hload rfl _ script (takesCorpusAt_corpusWorld _)
  · obtain ⟨-, -, hnumber, -⟩ := load_reported_or_crashes
      (read_corpusWorld (String.ofList ('9' :: List.replicate 4300 '9')).toUTF8.data.toList)
    have hdigits : ∀ d ∈ '9' :: List.replicate 4300 '9', d.isDigit = true := by
      intro d hd
      rw [← List.replicate_succ, List.mem_replicate] at hd
      rw [hd.2]
      decide
    have hlength : ('9' :: List.replicate 4300 '9').length = 4301 := by
      rw [List.length_cons, List.length_replicate]
    have hload := hnumber '9' (List.replicate 4300 '9') (by decide) hdigits
      (by rw [hlength]; decide) rfl
    rwa [hlength] at hload

/-- A lone octet that begins no sequence ends a command without an error line. -/
theorem check_octet_not_text :
    (run (corpusWorld [0xFF]) ["check", "a.go", "--corpus", "corpus.json", "--json"]).toOption.map
        (fun outcome => (outcome.status, outcome.stdout, outcome.stderr, outcome.crash)) =
      some (1, "", "", some (.corpus (.undecodable ⟨0, [0xFF], .startByte⟩))) := by
  decide +kernel

end Command

end NearMiss
