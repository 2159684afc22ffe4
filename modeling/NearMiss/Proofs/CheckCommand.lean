import NearMiss.Command.Run
import NearMiss.Proofs.CorpusFile
import NearMiss.Proofs.Documents
import NearMiss.Proofs.Literal
import NearMiss.Proofs.Script
import NearMiss.Proofs.Walk
import NearMiss.Proofs.Wording

/-!
# Checking files one by one

What the `check` command reports is put together from what it finds in each file, in the order of
the files. A file that cannot be read, or that is no text, contributes nothing and takes nothing
away from the others. The one thing that can go wrong is the warning about such a file: it names the
path as markup, and a path that reads as a wrong tag ends the command.
-/

namespace NearMiss

open Console Text

/-! ## One file -/

/-- Octets are those of a text, and then they can be checked, or they cannot be decoded. -/
theorem Checker.octets_cases (checker : Checker) (octets : List UInt8) :
    (∃ found, checker.octets octets = .ok found ∧
      ∃ text : String, octets = text.toUTF8.data.toList) ∨
      ∃ error, checker.octets octets = .error (.undecodable error) ∧
        ∀ text : String, octets ≠ text.toUTF8.data.toList := by
  cases hdecode : decode octets with
  | error error =>
    refine .inr ⟨error, by rw [Checker.octets, hdecode], ?_⟩
    exact exists_decode_eq_error_iff.mp ⟨error, hdecode⟩
  | ok chars =>
    have hoctets : octets = (String.ofList chars).toUTF8.data.toList := by
      rw [← encode_toList, String.toList_ofList]
      exact decode_eq_ok_iff.mp hdecode
    obtain ⟨found, hfinds⟩ := checker.exists_finds (lines (normalizeNewlines chars))
    refine .inl ⟨found, ?_, String.ofList chars, hoctets⟩
    rw [Checker.octets, hdecode]
    refine Finds.source_eq ?_
    rwa [String.toList_ofList]

namespace Command

variable (checker : Checker) (tree : FileTree)

/-- The diagnostics of the file at a path; there are none if it cannot be read as a text. -/
def diagnosticsAt (path : Path) : List Diagnostic :=
  ((tree.read path).toOption.bind fun octets => (checker.octets octets).toOption).getD []

/-- The rows that the file at a path contributes. -/
def rowsAt (path : Path) : List Row :=
  (diagnosticsAt checker tree path).map fun d => (path.text, d)

variable {checker tree} {path : Path}

/-- A file that cannot be read contributes nothing. -/
theorem rowsAt_of_read_error {error : FileError} (hread : tree.read path = .error error) :
    rowsAt checker tree path = [] := by
  rw [rowsAt, diagnosticsAt, hread]
  rfl

/-- A file that cannot be checked contributes nothing. -/
theorem rowsAt_of_octets_error {octets : List UInt8} (hread : tree.read path = .ok octets)
    {error : Checker.Error} (herror : checker.octets octets = .error error) :
    rowsAt checker tree path = [] := by
  simp only [rowsAt, diagnosticsAt, hread, Except.toOption, Option.bind_some, herror,
    Option.getD_none, List.map_nil]

/-- Any other file contributes its diagnostics. -/
theorem rowsAt_of_octets_ok {octets : List UInt8} (hread : tree.read path = .ok octets)
    {found : List Diagnostic} (hfound : checker.octets octets = .ok found) :
    rowsAt checker tree path = found.map fun d => (path.text, d) := by
  simp only [rowsAt, diagnosticsAt, hread, Except.toOption, Option.bind_some, hfound,
    Option.getD_some]

/-- The reason why the file at a path cannot be checked. -/
inductive Unreadable (tree : FileTree) (path : Path) : String → Prop
  /-- There is no file that can be read. -/
  | noFile {error : FileError} (hread : tree.read path = .error error) :
    Unreadable tree path error.message
  /-- The file is no text. -/
  | noText {octets : List UInt8} {error : Utf8Error} (hread : tree.read path = .ok octets)
    (hdecode : decode octets = .error error) : Unreadable tree path error.message

/-- If there is no file to read, this is the reason. -/
theorem unreadable_of_read_error {error : FileError} (hread : tree.read path = .error error)
    {reason : String} : Unreadable tree path reason ↔ reason = error.message := by
  constructor
  · rintro (hother | ⟨hother, -⟩)
    · rw [Except.error.inj (hread.symm.trans hother)]
    · cases hread.symm.trans hother
  · rintro rfl
    exact .noFile hread

section Readable

variable {octets : List UInt8} (hread : tree.read path = .ok octets)

include hread

/-- If the file is no text, this is the reason. -/
theorem unreadable_of_decode_error {error : Utf8Error} (hdecode : decode octets = .error error)
    {reason : String} : Unreadable tree path reason ↔ reason = error.message := by
  constructor
  · rintro (hother | ⟨hother, hwrong⟩)
    · cases hread.symm.trans hother
    · obtain rfl := Except.ok.inj (hread.symm.trans hother)
      rw [Except.error.inj (hdecode.symm.trans hwrong)]
  · rintro rfl
    exact .noText hread hdecode

/-- A text can be checked. -/
theorem not_unreadable {chars : List Char} (hdecode : decode octets = .ok chars)
    (reason : String) : ¬Unreadable tree path reason := by
  rintro (hother | ⟨hother, hwrong⟩)
  · cases hread.symm.trans hother
  · obtain rfl := Except.ok.inj (hread.symm.trans hother)
    cases hdecode.symm.trans hwrong

end Readable

/-- A failure to read a file names the path. -/
theorem path_of_read_error {error : FileError} (h : tree.read path = .error error) :
    error.path = path := by
  rw [FileTree.read, FileTree.content] at h
  split at h
  · cases h
    rfl
  · cases h
    rfl
  · cases h

/-- The reason has no tags but those of the path. -/
theorem Unreadable.tagFree {reason : String} (h : Unreadable tree path reason)
    (hpath : TagFree path.text.toList) : TagFree reason.toList := by
  cases h with
  | noFile hread =>
    refine FileError.tagFree_message ?_
    rwa [path_of_read_error hread]
  | noText hread hdecode => exact tagFree_utf8Error _

/-- The step that warns about a file. -/
def warningAbout (path : Path) (reason : String) : Step :=
  .warn s!"[yellow]Warning:[/yellow] Cannot read {path.text}: {reason}"

/-- The warning about a file can be printed if neither its path nor the reason has tags. -/
theorem warningAbout_sound {reason : String} (hpath : TagFree path.text.toList)
    (hreason : TagFree reason.toList) : (warningAbout path reason).Sound := by
  have hlabel : TagFree "Warning:".toList := by decide +kernel
  have hreport : TagFree (path.text.toList ++ ([':', ' '] ++ reason.toList)) :=
    hpath.append (.append_of_not_mem (by decide) hreason) rfl
  refine Step.sound_of_labelled "yellow".toList " Cannot read ".toList rfl (by simp) hlabel
    (by decide) hreport ?_
  simp only [String.toList_append, List.append_assoc]
  rfl

variable (checker tree)

/-- What comes of a file is told by its rows and, if it cannot be checked, by a warning. -/
structure Finding.Tells (finding : Finding) (path : Path) : Prop where
  rows_eq : rowsOf finding = rowsAt checker tree path
  told : (∃ reason, (∀ other, Unreadable tree path other ↔ other = reason) ∧
      warning? finding = some (warningAbout path reason)) ∨
    (∀ reason, ¬Unreadable tree path reason) ∧ warning? finding = none

/-- Something comes of every file. -/
theorem exists_examine (path : Path) :
    ∃ finding, examine checker tree path = .ok finding ∧ finding.Tells checker tree path := by
  cases hread : tree.read path with
  | error error =>
    refine ⟨(path, .error error.message), by rw [examine, hread], ?_, .inl ?_⟩
    · exact (rowsAt_of_read_error hread).symm
    · exact ⟨error.message, fun _ => unreadable_of_read_error hread, rfl⟩
  | ok octets =>
    cases hdecode : decode octets with
    | error error =>
      have hoctets : checker.octets octets = .error (.undecodable error) := by
        rw [Checker.octets, hdecode]
      refine ⟨(path, .error error.message), by simp only [examine, hread, hoctets], ?_, .inl ?_⟩
      · exact (rowsAt_of_octets_error hread hoctets).symm
      · exact ⟨error.message, fun _ => unreadable_of_decode_error hread hdecode, rfl⟩
    | ok chars =>
      rcases checker.octets_cases octets with ⟨found, hfound, -⟩ | ⟨-, -, hnone⟩
      · refine ⟨(path, .ok found), by simp only [examine, hread, hfound], ?_, .inr ?_⟩
        · exact (rowsAt_of_octets_ok hread hfound).symm
        · exact ⟨not_unreadable hread hdecode, rfl⟩
      · obtain ⟨error, herror⟩ := exists_decode_eq_error_iff.mpr hnone
        cases hdecode.symm.trans herror

/-! ## All files -/

/-- The rows of the files at paths, file by file. -/
def rowsOfAll (paths : List Path) : List Row :=
  paths.flatMap (rowsAt checker tree)

/-- The steps that warn about files. -/
def warnings (reports : List (Path × String)) : List Step :=
  reports.map fun report => warningAbout report.1 report.2

/-- The files among those at paths that cannot be checked, in order and with the reasons. -/
structure Reports (paths : List Path) (reports : List (Path × String)) : Prop where
  order : (reports.map Prod.fst).Sublist paths
  mem_iff : ∀ file reason,
    (file, reason) ∈ reports ↔ file ∈ paths ∧ Unreadable tree file reason

/-- What comes of files is told file by file. -/
theorem exists_findings (paths : List Path) :
    ∃ findings reports, paths.mapM (examine checker tree) = .ok findings ∧
      findings.flatMap rowsOf = rowsOfAll checker tree paths ∧
      findings.filterMap warning? = warnings reports ∧
      Reports tree paths reports := by
  induction paths with
  | nil => exact ⟨[], [], rfl, rfl, rfl, .slnil, by simp⟩
  | cons path later ih =>
    obtain ⟨finding, hfinding, hrow, htold⟩ := exists_examine checker tree path
    obtain ⟨findings, reports, hfindings, hrows, hwarnings, hreports⟩ := ih
    have hall : (path :: later).mapM (examine checker tree) = .ok (finding :: findings) := by
      rw [List.mapM_cons, hfinding, hfindings]
      rfl
    have hallRows : (finding :: findings).flatMap rowsOf =
        rowsOfAll checker tree (path :: later) := by
      rw [List.flatMap_cons, hrow, hrows]
      rfl
    rcases htold with ⟨reason, hreason, hwarning⟩ | ⟨hnone, hwarning⟩
    · refine ⟨_, (path, reason) :: reports, hall, hallRows, ?_, hreports.order.cons_cons path, ?_⟩
      · rw [List.filterMap_cons_some hwarning, hwarnings]
        rfl
      · intro file other
        rw [List.mem_cons, List.mem_cons, hreports.mem_iff, Prod.mk.injEq, or_and_right]
        refine or_congr (and_congr_right fun hfile => ?_) Iff.rfl
        rw [hfile, hreason]
    · refine ⟨_, reports, hall, hallRows, ?_, hreports.order.cons path, ?_⟩
      · rw [List.filterMap_cons_none hwarning, hwarnings]
      · intro file other
        rw [List.mem_cons, hreports.mem_iff, or_and_right]
        refine ⟨.inr, fun h => h.resolve_left ?_⟩
        rintro ⟨rfl, hother⟩
        exact hnone other hother

/-- The exit status of a check that reports the rows. -/
def statusOf (strict : Bool) (rows : List Row) : Nat :=
  if strict && !rows.isEmpty then 1 else 0

/-- The script of a check: warnings about the files that cannot be checked, and then the rows. -/
theorem exists_checkScript (paths : List Path) (json strict : Bool) :
    ∃ reports, Reports tree (collect tree paths) reports ∧
      checkScript checker tree paths json strict =
        .ofSteps (warnings reports ++ showRows json (rowsOfAll checker tree (collect tree paths)))
          (statusOf strict (rowsOfAll checker tree (collect tree paths))) := by
  obtain ⟨findings, reports, hfindings, hrows, hwarnings, hreports⟩ :=
    exists_findings checker tree (collect tree paths)
  refine ⟨reports, hreports, ?_⟩
  rw [checkScript, hfindings]
  simp only [hrows, hwarnings, statusOf]

/-! ## What is shown -/

/-- Rows are only printed. -/
theorem showRows_speaks (json : Bool) (rows : List Row) :
    ∀ step ∈ showRows json rows, step.Speaks := by
  intro step hstep
  rw [showRows] at hstep
  split at hstep
  · rw [List.mem_singleton.mp hstep]
    exact ⟨_, rfl⟩
  · split at hstep
    · rw [List.mem_singleton.mp hstep]
      exact ⟨_, rfl⟩
    · rcases List.mem_cons.mp hstep with rfl | hrow
      · exact ⟨_, rfl⟩
      · obtain ⟨row, -, rfl⟩ := List.mem_map.mp hrow
        exact ⟨_, rfl⟩

/-- What can be seen of a check that reports the rows. If it fails, then for wrong markup. -/
structure Outcome.Shows (outcome : Outcome) (files : FileTree) (json strict : Bool)
    (rows : List Row) : Prop where
  /-- No file has changed. -/
  files_eq : outcome.files = files
  /-- The exit status tells in strict mode whether there are rows. -/
  status_eq : outcome.crash = none → outcome.status = statusOf strict rows
  /-- The rows are printed as a JSON array. -/
  payload_eq : json = true → outcome.crash = none →
    outcome.stdout = (Json.arr (rows.map Row.toJson)).pretty ++ "\n"
  /-- A failure is one of a warning, or of rows that are shown as texts. -/
  crash_eq : ∀ crash, outcome.crash = some crash →
    outcome.status = 1 ∧ (∃ error, crash = .markup error) ∧ (json = true → outcome.stdout = "")

/-- Rows are not printed as errors. -/
theorem isWarning_showRows (json : Bool) (rows : List Row) :
    ∀ step ∈ showRows json rows, step.isWarning = false := by
  intro step hstep
  rw [showRows] at hstep
  split at hstep
  · rw [List.mem_singleton.mp hstep]
    rfl
  · split at hstep
    · rw [List.mem_singleton.mp hstep]
      rfl
    · rcases List.mem_cons.mp hstep with rfl | hrow
      · rfl
      · obtain ⟨row, -, rfl⟩ := List.mem_map.mp hrow
        rfl

/-- Warnings are printed as errors. -/
theorem isWarning_warnings (reports : List (Path × String)) :
    ∀ step ∈ warnings reports, step.isWarning = true := by
  intro step hstep
  obtain ⟨report, -, rfl⟩ := List.mem_map.mp hstep
  rfl

/-- Warnings are only printed. -/
theorem warnings_speak (reports : List (Path × String)) :
    ∀ step ∈ warnings reports, step.Speaks := by
  intro step hstep
  obtain ⟨report, -, rfl⟩ := List.mem_map.mp hstep
  exact ⟨_, rfl⟩

/-- Warnings can be printed if the paths of the files have no tags. -/
theorem warnings_sound {paths : List Path} {reports : List (Path × String)}
    (hreports : Reports tree paths reports) (hpaths : ∀ path ∈ paths, TagFree path.text.toList) :
    ∀ step ∈ warnings reports, step.Sound := by
  intro step hstep
  obtain ⟨⟨file, reason⟩, hreport, rfl⟩ := List.mem_map.mp hstep
  obtain ⟨hfile, hreason⟩ := (hreports.mem_iff file reason).mp hreport
  exact warningAbout_sound (hpaths file hfile) (hreason.tagFree (hpaths file hfile))

/-- So can every one of them. -/
theorem Reports.warning_sound {paths : List Path} {shown later : List (Path × String)}
    {report : Path × String} (hreports : Reports tree paths (shown ++ report :: later))
    (hpaths : ∀ path ∈ paths, TagFree path.text.toList) :
    (warningAbout report.1 report.2).Sound := by
  have hmem : report ∈ shown ++ report :: later := List.mem_append_right shown List.mem_cons_self
  exact warnings_sound tree hreports hpaths _ (List.mem_map_of_mem hmem)

/-- How a check ends that warns and then shows rows. -/
inductive Outcome.Ends (outcome : Outcome) (reports : List (Path × String)) (shows : List Step)
    (status : Nat) : Prop
  /-- All warnings have been printed, and all rows. -/
  | told (hwarnings : ∀ step ∈ warnings reports, step.Sound)
    (hstderr : outcome.stderr = printedBy true (warnings reports))
    (hstdout : outcome.stdout = printedBy false shows) (hcrash : outcome.crash = none)
    (hstatus : outcome.status = status)
  /-- All warnings have been printed, and rows up to one with wrong markup. -/
  | broken (hwarnings : ∀ step ∈ warnings reports, step.Sound)
    (hstderr : outcome.stderr = printedBy true (warnings reports))
    {step : Step} (hstep : step ∈ shows) {error : MarkupError}
    (hwrong : step.wording? = some (.error error)) (hcrash : outcome.crash = some (.markup error))
    (hstatus : outcome.status = 1)
  /-- Warnings have been printed up to one with wrong markup, and nothing else. -/
  | stopped {shown later : List (Path × String)} {report : Path × String}
    (hreports : reports = shown ++ report :: later)
    (hwarnings : ∀ step ∈ warnings shown, step.Sound)
    (hstderr : outcome.stderr = printedBy true (warnings shown)) (hstdout : outcome.stdout = "")
    {error : MarkupError}
    (hwrong : (warningAbout report.1 report.2).wording? = some (.error error))
    (hcrash : outcome.crash = some (.markup error)) (hstatus : outcome.status = 1)

/-- A front of warnings and other steps either has all warnings or is made of warnings. -/
theorem warnings_append_eq_append {reports : List (Path × String)} {shows front : List Step}
    {step : Step} {back : List Step} (h : warnings reports ++ shows = front ++ step :: back) :
    (∃ seen, front = warnings reports ++ seen ∧ shows = seen ++ step :: back) ∨
      ∃ shown report later, reports = shown ++ report :: later ∧ front = warnings shown ∧
        step = warningAbout report.1 report.2 := by
  rcases List.append_eq_append_iff.mp h with ⟨seen, hfront, hshows⟩ | ⟨rest, hwarnings, hback⟩
  · exact .inl ⟨seen, hfront, hshows⟩
  · obtain ⟨shown, later, rfl, rfl, rfl⟩ := List.map_eq_append_iff.mp hwarnings
    cases later with
    | nil => exact .inl ⟨[], by simp [warnings], hback.symm⟩
    | cons report later =>
      exact .inr ⟨shown, report, later, rfl, rfl, (List.cons.inj hback).1⟩

/-- Steps that warn and then show rows come to one of the three ends. -/
theorem ends_ofSteps {reports : List (Path × String)} {shows : List Step}
    (hspeaks : ∀ step ∈ shows, step.Speaks) (hkind : ∀ step ∈ shows, step.isWarning = false)
    {status : Nat} {files : FileTree} {outcome : Outcome}
    (houtcome : (Script.ofSteps (warnings reports ++ shows) status).run files = outcome) :
    outcome.files = files ∧ outcome.Ends reports shows status := by
  -- What is printed as errors comes from the warnings alone, all else from the rows alone.
  have herrors (shown : List (Path × String)) {seen : List Step} (hseen : seen ⊆ shows) :
      printedBy true (warnings shown ++ seen) = printedBy true (warnings shown) := by
    have hnone : printedBy true seen = "" :=
      printedBy_eq_empty fun step hstep => by rw [hkind step (hseen hstep)]; decide
    rw [printedBy_append, hnone, String.append_empty]
  have hothers (shown : List (Path × String)) : printedBy false (warnings shown) = "" :=
    printedBy_eq_empty fun step hstep => by rw [isWarning_warnings shown step hstep]; decide
  have hall : ∀ step ∈ warnings reports ++ shows, step.Speaks :=
    List.forall_mem_append.mpr ⟨warnings_speak reports, hspeaks⟩
  obtain ⟨hfiles, hstdout, hstderr, hend⟩ := Script.run_of_speaks hall _ files houtcome
  refine ⟨hfiles, ?_⟩
  rcases hend with ⟨hsound, hend, -⟩ | ⟨front, step, back, error, hsteps, hfront, hwrong, hcrash⟩
  · rw [heard_of_sound hsound] at hstdout hstderr
    rw [herrors reports (List.Subset.refl shows)] at hstderr
    rw [printedBy_append, hothers, String.empty_append] at hstdout
    obtain ⟨hcrash, hstatus⟩ := hend status rfl
    exact .told (List.forall_mem_append.mp hsound).1 hstderr hstdout hcrash hstatus
  · have hheard : heard (warnings reports ++ shows) = front := by
      rw [hsteps]
      exact heard_append_cons hfront (Step.not_sound_of_wrong hwrong) back
    rw [hheard] at hstdout hstderr
    rcases warnings_append_eq_append hsteps with
      ⟨seen, rfl, rfl⟩ | ⟨shown, report, later, rfl, rfl, rfl⟩
    · rw [herrors reports (List.subset_append_left seen _)] at hstderr
      exact .broken (List.forall_mem_append.mp hfront).1 hstderr
        (List.mem_append_right seen List.mem_cons_self) hwrong hcrash.1 hcrash.2
    · rw [hothers] at hstdout
      exact .stopped rfl hfront hstderr hstdout hwrong hcrash.1 hcrash.2

/-- Every check comes to one of the three ends. -/
theorem exists_ends (paths : List Path) (json strict : Bool) :
    let rows := rowsOfAll checker tree (collect tree paths)
    let outcome := (checkScript checker tree paths json strict).run tree
    ∃ reports, Reports tree (collect tree paths) reports ∧ outcome.files = tree ∧
      outcome.Ends reports (showRows json rows) (statusOf strict rows) := by
  intro rows outcome
  obtain ⟨reports, hreports, hscript⟩ := exists_checkScript checker tree paths json strict
  refine ⟨reports, hreports, ends_ofSteps (showRows_speaks json rows)
    (isWarning_showRows json rows) ?_⟩
  rw [← hscript]

section Overwritten

variable {tree} {place : Place} {old : Content} (hold : tree.get? place = some (.file old))
  (new : Content)

include hold

end Overwritten

/-! ## The command -/

variable {world : World} {words texts : List String} {corpusText : Option String}
  {json strict : Bool} {paths : List Path} {given : Option Path} {settings : Settings}
  {corpus : Corpus}

end Command

end NearMiss
