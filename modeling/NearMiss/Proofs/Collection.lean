import NearMiss.Proofs.CheckCommand

/-!
# What a directory stands for

Of a directory that is to be checked, everything below it is taken that has the name of a source
file without tests and is not in a directory to be skipped, each once and in the order of the paths.
Only names are looked at, so a directory with the name of a source file is taken, too. Without such
directories exactly the source files are taken. With them, and only then, there are warnings about
paths that lead to no file. The warnings are printed up to the first whose markup is wrong.
-/

namespace NearMiss

open Console Text

/-! ## Names that are taken -/

namespace Command

/-- The names lead from a directory to something that is to be checked. -/
structure Checkable (names : List String) : Prop where
  /-- The last name is that of a source file without tests. -/
  name : ∃ name, names.getLast? = some name ∧ ".go".toList <:+ name.toList ∧
    ¬"_test.go".toList <:+ name.toList
  /-- No name is that of a directory to be skipped. -/
  kept : "vendor" ∉ names ∧ "testdata" ∉ names

/-- The names that count, as they are tested. -/
theorem checkable_iff {names : List String} :
    Checkable names ↔
      FileTree.isSourceName (names.getLastD "") = true ∧ isChecked names = true := by
  have hskipped : names.any skippedDirs.contains = false ↔
      "vendor" ∉ names ∧ "testdata" ∉ names := by
    rw [List.any_eq_false]
    simp only [skippedDirs, List.contains_cons, List.contains_nil, Bool.or_false, Bool.or_eq_true,
      beq_iff_eq, not_or]
    constructor
    · intro hnames
      exact ⟨fun hmem => (hnames _ hmem).1 rfl, fun hmem => (hnames _ hmem).2 rfl⟩
    · rintro ⟨hvendor, htestdata⟩ name hname
      exact ⟨fun heq => hvendor (heq ▸ hname), fun heq => htestdata (heq ▸ hname)⟩
  have hlast : (∃ name, names.getLast? = some name ∧ ".go".toList <:+ name.toList ∧
      ¬"_test.go".toList <:+ name.toList) ↔
        FileTree.isSourceName (names.getLastD "") = true ∧
          FileTree.isTestName (names.getLastD "") = false := by
    rw [FileTree.isSourceName, FileTree.isTestName, Text.endsWith, Text.endsWith,
      List.isSuffixOf_iff_suffix, ← Bool.not_eq_true, List.isSuffixOf_iff_suffix,
      List.getLastD_eq_getLast?]
    cases hnames : names.getLast? with
    | none => simp
    | some name => simp
  rw [isChecked, Bool.and_eq_true, Bool.not_eq_true', Bool.not_eq_true', hskipped, ← and_assoc,
    ← hlast]
  exact ⟨fun h => ⟨h.name, h.kept⟩, fun h => ⟨h.1, h.2⟩⟩

/-- A directory is not taken itself. -/
theorem Checkable.ne_nil {names : List String} (h : Checkable names) : names ≠ [] := by
  rintro rfl
  obtain ⟨name, hname, -⟩ := h.name
  cases hname

end Command

namespace FileTree

/-- No name in the tree leads up. -/
def DotFree (tree : FileTree) : Prop :=
  ∀ entry ∈ tree.entries, ".." ∉ entry.1

variable {tree : FileTree}

/-- Names that do not lead up lead to the place that they name. -/
theorem eq_append_of_follow {place found : Place} {names : List String} (hdots : ".." ∉ names)
    (h : tree.follow place names = .ok found) : found = place ++ names := by
  induction names generalizing place with
  | nil =>
    rw [List.append_nil]
    exact (Except.ok.inj h).symm
  | cons name later ih =>
    rw [List.mem_cons, not_or] at hdots
    obtain ⟨-, -, hlater⟩ := follow_cons_eq_ok_iff.mp h
    rw [ih hdots.2 hlater, step, if_neg (Ne.symm hdots.1), List.append_assoc]
    rfl

/-- A path that goes on from a directory leads to the place that it names, if anywhere. -/
theorem eq_append_of_placeOf_descend {path : Path} {place found : Place} {names : List String}
    (hpath : tree.placeOf path = .ok place) (hdots : ".." ∉ names)
    (h : tree.placeOf (path.descend names) = .ok found) : found = place ++ names := by
  obtain ⟨-, hfollow⟩ := placeOf_eq_ok_iff.mp h
  obtain ⟨middle, hmiddle, hrest⟩ := follow_append_eq_ok_iff.mp hfollow
  have hplace : middle = place :=
    Except.ok.inj (hmiddle.symm.trans (placeOf_eq_ok_iff.mp hpath).2)
  rw [← hplace]
  exact eq_append_of_follow hdots hrest

/-- No name on the way to something in the tree leads up. -/
theorem DotFree.not_mem (h : tree.DotFree) (htree : tree.WellFormed) {place : Place}
    {names : List String} (hnames : names ≠ []) {node : Node}
    (hnode : tree.get? (place ++ names) = some node) : ".." ∉ names := by
  intro hmem
  have hne : place ++ names ≠ [] := by simp [hnames]
  exact h _ ((htree.mem_entries_iff hne).mpr hnode) (List.mem_append_right place hmem)

/-- A directory cannot be read as a file. -/
theorem exists_read_eq_error {path : Path} {place : Place} {names : List String}
    (hpath : tree.placeOf path = .ok place) (hdots : ".." ∉ names)
    (hdirectory : tree.get? (place ++ names) = some .directory) :
    ∃ error, tree.read (path.descend names) = .error error := by
  cases hfound : tree.placeOf (path.descend names) with
  | error cause =>
    refine ⟨⟨cause, path.descend names⟩, ?_⟩
    simp only [read, content, find, hfound]
    rfl
  | ok found =>
    obtain rfl := eq_append_of_placeOf_descend hpath hdots hfound
    refine ⟨⟨.isDirectory, path.descend names⟩, ?_⟩
    simp only [read, content, find, hfound, hdirectory]
    rfl

end FileTree

namespace Command

variable {tree : FileTree} {path : Path} {place : Place}

/-! ## Files that are taken -/

/-- What is taken of a directory is what a walk through it finds under the names that count. -/
theorem collect_eq_map (hpath : tree.placeOf path = .ok place)
    (hdirectory : tree.get? place = some .directory) :
    collect tree [path] = ((tree.walk place).filter fun found =>
      isChecked found.1 && FileTree.isSourceName (found.1.getLastD "")).map
        fun found => path.descend found.1 := by
  have hfile : tree.isFile path = false := by
    simp only [FileTree.isFile, FileTree.find, hpath, hdirectory]
  rw [collect, List.flatMap_cons, List.flatMap_nil, List.append_nil, filesAt, hfile,
    if_neg Bool.false_ne_true, FileTree.sources_eq_filter hpath hdirectory, List.filter_filter]

/-- What is taken of a directory stands below it under names that count. -/
theorem mem_collect_iff (htree : tree.WellFormed) (hpath : tree.placeOf path = .ok place)
    (hdirectory : tree.get? place = some .directory) (file : Path) :
    file ∈ collect tree [path] ↔
      ∃ names node, Checkable names ∧ tree.get? (place ++ names) = some node ∧
        file = path.descend names := by
  rw [collect_eq_map hpath hdirectory, List.mem_map]
  constructor
  · rintro ⟨⟨names, node⟩, hfound, rfl⟩
    obtain ⟨hwalk, htaken⟩ := List.mem_filter.mp hfound
    rw [Bool.and_eq_true] at htaken
    exact ⟨names, node, checkable_iff.mpr htaken.symm, (htree.mem_walk_iff.mp hwalk).2, rfl⟩
  · rintro ⟨names, node, hnames, hnode, rfl⟩
    refine ⟨(names, node), List.mem_filter.mpr ⟨?_, ?_⟩, rfl⟩
    · exact htree.mem_walk_iff.mpr ⟨hnames.ne_nil, hnode⟩
    · rw [Bool.and_eq_true]
      exact (checkable_iff.mp hnames).symm

/-- What is taken of a directory is in the order of the paths. -/
theorem pairwise_collect (htree : tree.WellFormed) (hpath : tree.placeOf path = .ok place)
    (hdirectory : tree.get? place = some .directory) :
    (collect tree [path]).Pairwise fun a b => a.names < b.names := by
  rw [collect_eq_map hpath hdirectory, List.pairwise_map]
  refine ((htree.pairwise_walk place).filter _).imp fun hlt => ?_
  exact List.append_left_lt hlt

/-! ## Warnings -/

/-- A check warns about the files that it takes and that cannot be read, and about nothing else. -/
theorem warn_mem_checkScript_iff (checker : Checker) (tree : FileTree) (paths : List Path)
    (json strict : Bool) (markup : String) :
    .warn markup ∈ (checkScript checker tree paths json strict).steps ↔
      ∃ file ∈ collect tree paths, ∃ reason, Unreadable tree file reason ∧
        .warn markup = warningAbout file reason := by
  obtain ⟨reports, hreports, hscript⟩ := exists_checkScript checker tree paths json strict
  have hrows : Step.warn markup ∉ showRows json (rowsOfAll checker tree (collect tree paths)) :=
    fun hmem => Bool.noConfusion (isWarning_showRows json _ _ hmem)
  rw [hscript, Script.ofSteps, List.mem_append, or_iff_left hrows, warnings, List.mem_map]
  constructor
  · rintro ⟨⟨file, reason⟩, hreport, heq⟩
    obtain ⟨hfile, hreason⟩ := (hreports.mem_iff file reason).mp hreport
    exact ⟨file, hfile, reason, hreason, heq.symm⟩
  · rintro ⟨file, hfile, reason, hreason, heq⟩
    exact ⟨(file, reason), (hreports.mem_iff file reason).mpr ⟨hfile, hreason⟩, heq.symm⟩

/-- What is seen of the warnings of a check. They are printed as errors, one after the other, up to
the first with wrong markup. That one ends the check, and then nothing else has been printed. -/
structure Outcome.Warns (outcome : Outcome) (shown later : List (Path × String)) : Prop where
  /-- What is printed as errors is the warnings that are shown. -/
  stderr_eq : ∃ texts, outcome.stderr = String.join texts ∧
    List.Forall₂ (fun step text => step.wording? = some (.ok text)) (warnings shown) texts
  /-- The next warning cannot be printed. -/
  stopped : ∀ report rest, later = report :: rest →
    ∃ error, (warningAbout report.1 report.2).wording? = some (.error error) ∧
      outcome.crash = some (.markup error) ∧ outcome.status = 1 ∧ outcome.stdout = ""

/-- The warnings that can be printed are those in front of the first that cannot. If the paths have
no tags, all can. -/
theorem exists_warns (checker : Checker) (tree : FileTree) (paths : List Path)
    (json strict : Bool) :
    ∃ shown later, Reports tree (collect tree paths) (shown ++ later) ∧
      ((checkScript checker tree paths json strict).run tree).Warns shown later ∧
      ((∀ file ∈ collect tree paths, TagFree file.text.toList) → later = []) := by
  obtain ⟨reports, hreports, -, hends⟩ := exists_ends checker tree paths json strict
  have hall (hwarnings : ∀ step ∈ warnings reports, step.Sound)
      (hstderr : ((checkScript checker tree paths json strict).run tree).stderr =
        printedBy true (warnings reports)) :
      ((checkScript checker tree paths json strict).run tree).Warns reports [] := by
    obtain ⟨texts, hprinted, htexts⟩ := exists_texts hwarnings (isWarning_warnings reports)
    exact ⟨⟨texts, hstderr.trans hprinted, htexts⟩, nofun⟩
  cases hends with
  | told hwarnings hstderr =>
    exact ⟨reports, [], by rwa [List.append_nil], hall hwarnings hstderr, fun _ => rfl⟩
  | broken hwarnings hstderr =>
    exact ⟨reports, [], by rwa [List.append_nil], hall hwarnings hstderr, fun _ => rfl⟩
  | @stopped shown later report hsplit hwarnings hstderr hstdout error hwrong hcrash hstatus =>
    obtain ⟨texts, hprinted, htexts⟩ := exists_texts hwarnings (isWarning_warnings shown)
    rw [hsplit] at hreports
    refine ⟨shown, report :: later, hreports,
      ⟨⟨texts, hstderr.trans hprinted, htexts⟩, ?_⟩, fun hpaths => ?_⟩
    · rintro _ _ ⟨⟩
      exact ⟨error, hwrong, hcrash, hstatus, hstdout⟩
    · exact absurd (hreports.warning_sound tree hpaths) (Step.not_sound_of_wrong hwrong)

/-! ## Checks of a directory -/

/-- Below the place there is no directory with a name under which files are taken. -/
def FilesOnly (tree : FileTree) (place : Place) : Prop :=
  ∀ names, Checkable names → tree.get? (place ++ names) ≠ some .directory

/-- What is taken is then a file. -/
theorem FilesOnly.exists_content (h : FilesOnly tree place) {names : List String} {node : Node}
    (hnames : Checkable names) (hnode : tree.get? (place ++ names) = some node) :
    ∃ content, node = .file content := by
  cases node with
  | directory => exact absurd hnode (h names hnames)
  | file content => exact ⟨content, rfl⟩

/-- Exactly the files are taken if and only if there are no directories to be taken. -/
theorem filesOnly_iff (htree : tree.WellFormed) (hpath : tree.placeOf path = .ok place)
    (hdirectory : tree.get? place = some .directory) :
    FilesOnly tree place ↔ ∀ file, file ∈ collect tree [path] ↔
      ∃ names content, Checkable names ∧ tree.get? (place ++ names) = some (.file content) ∧
        file = path.descend names := by
  have hmem := mem_collect_iff htree hpath hdirectory
  constructor
  · intro hfiles file
    rw [hmem]
    constructor
    · rintro ⟨names, node, hnames, hnode, rfl⟩
      obtain ⟨content, rfl⟩ := hfiles.exists_content hnames hnode
      exact ⟨names, content, hnames, hnode, rfl⟩
    · rintro ⟨names, content, hnames, hnode, rfl⟩
      exact ⟨names, _, hnames, hnode, rfl⟩
  · intro hfiles names hnames hnode
    obtain ⟨others, content, -, hother, heq⟩ :=
      (hfiles (path.descend names)).mp ((hmem _).mpr ⟨names, _, hnames, hnode, rfl⟩)
    obtain rfl : names = others := List.append_cancel_left (congrArg Path.names heq)
    cases hnode.symm.trans hother

/-- A check of a directory takes what is below it under a name that ends in `.go` but not in
`_test.go`, unless a name on the way is `vendor` or `testdata`: each once and in the order of the
paths, whether it is a file or a directory. What is taken is exactly the files among this if there
is no such directory, and only then. Of what is taken there is a warning about each that cannot be
read, so about each such directory, and about nothing else. Hence without such directories every
warning is about a file. A run prints these warnings in the order of the paths, up to the first
whose markup is wrong, which ends it. If the paths have no tags, it prints them all. -/
theorem collect_directory (htree : tree.WellFormed) (hdots : tree.DotFree)
    (hpath : tree.placeOf path = .ok place) (hdirectory : tree.get? place = some .directory) :
    (collect tree [path]).Pairwise (fun a b => a.names < b.names) ∧
    (collect tree [path]).Nodup ∧
    (∀ file, file ∈ collect tree [path] ↔
      ∃ names node, Checkable names ∧ tree.get? (place ++ names) = some node ∧
        file = path.descend names) ∧
    (FilesOnly tree place ↔ ∀ file, file ∈ collect tree [path] ↔
      ∃ names content, Checkable names ∧ tree.get? (place ++ names) = some (.file content) ∧
        file = path.descend names) ∧
    ∀ checker json strict,
      (∀ markup, .warn markup ∈ (checkScript checker tree [path] json strict).steps ↔
        ∃ file ∈ collect tree [path], ∃ reason, Unreadable tree file reason ∧
          .warn markup = warningAbout file reason) ∧
      ∃ shown later, Reports tree (collect tree [path]) (shown ++ later) ∧
        ((checkScript checker tree [path] json strict).run tree).Warns shown later ∧
        ((∀ file ∈ collect tree [path], TagFree file.text.toList) → later = []) ∧
        (∀ names, Checkable names → tree.get? (place ++ names) = some .directory →
          ∃ reason, (path.descend names, reason) ∈ shown ++ later) ∧
        (FilesOnly tree place → ∀ file reason, (file, reason) ∈ shown ++ later →
          ∃ names content, Checkable names ∧ tree.get? (place ++ names) = some (.file content) ∧
            file = path.descend names) := by
  have hmem := mem_collect_iff htree hpath hdirectory
  have hordered := pairwise_collect htree hpath hdirectory
  refine ⟨hordered, ?_, hmem, filesOnly_iff htree hpath hdirectory, ?_⟩
  · exact hordered.imp fun hlt heq => FileTree.ne_of_names_lt hlt (congrArg Path.names heq)
  · intro checker json strict
    refine ⟨warn_mem_checkScript_iff checker tree [path] json strict, ?_⟩
    obtain ⟨shown, later, hreports, hwarns, hall⟩ := exists_warns checker tree [path] json strict
    refine ⟨shown, later, hreports, hwarns, hall, fun names hnames hnode => ?_,
      fun hfiles file reason hreport => ?_⟩
    · obtain ⟨error, hread⟩ :=
        FileTree.exists_read_eq_error hpath (hdots.not_mem htree hnames.ne_nil hnode) hnode
      refine ⟨error.message, (hreports.mem_iff _ _).mpr ⟨?_, .noFile hread⟩⟩
      exact (hmem _).mpr ⟨names, _, hnames, hnode, rfl⟩
    · obtain ⟨hcollected, -⟩ := (hreports.mem_iff _ _).mp hreport
      obtain ⟨names, node, hnames, hnode, rfl⟩ := (hmem file).mp hcollected
      obtain ⟨content, rfl⟩ := hfiles.exists_content hnames hnode
      exact ⟨names, content, hnames, hnode, rfl⟩

/-- A directory with a file and with a directory that has the name of one. -/
def oddTree : FileTree :=
  ⟨[(["pkg"], .directory), (["pkg", "a.go"], .file (.plain [])), (["pkg", "x.go"], .directory)], []⟩

/-- The tree is well-formed. -/
theorem oddTree_wellFormed : oddTree.WellFormed where
  distinct := by decide
  slashFree := by decide

/-- No name in the tree leads up. -/
theorem oddTree_dotFree : oddTree.DotFree := by
  unfold FileTree.DotFree
  decide

/-- No path in the tree has tags. -/
theorem oddTree_tagFree :
    ∀ entry ∈ oddTree.entries, TagFree (Path.text ⟨"", entry.1⟩).toList := by
  decide +kernel

/-- The directory is found. -/
theorem oddTree_placeOf : oddTree.placeOf ⟨"", ["pkg"]⟩ = .ok ["pkg"] := by
  decide +kernel

/-- The directory in it has the name of a source file. -/
theorem checkable_odd : Checkable ["x.go"] where
  name := ⟨"x.go", rfl, by decide, by decide⟩
  kept := by decide

/-- Both are taken, once each, and a run of the check warns about the directory. -/
theorem collect_directory_odd :
    (collect oddTree [⟨"", ["pkg"]⟩]).Nodup ∧
    ⟨"", ["pkg", "a.go"]⟩ ∈ collect oddTree [⟨"", ["pkg"]⟩] ∧
    ⟨"", ["pkg", "x.go"]⟩ ∈ collect oddTree [⟨"", ["pkg"]⟩] ∧
    ∀ checker json strict, ∃ shown reason,
      ((checkScript checker oddTree [⟨"", ["pkg"]⟩] json strict).run oddTree).Warns shown [] ∧
        (⟨"", ["pkg", "x.go"]⟩, reason) ∈ shown := by
  obtain ⟨-, hnodup, hmem, -, hwarns⟩ :=
    collect_directory oddTree_wellFormed oddTree_dotFree oddTree_placeOf rfl
  refine ⟨hnodup, (hmem _).mpr ?_, (hmem _).mpr ?_, fun checker json strict => ?_⟩
  · exact ⟨["a.go"], .file (.plain []), ⟨⟨"a.go", rfl, by decide, by decide⟩, by decide⟩, rfl, rfl⟩
  · exact ⟨["x.go"], .directory, checkable_odd, rfl, rfl⟩
  · obtain ⟨-, shown, later, -, hshown, hall, hdirectories, -⟩ := hwarns checker json strict
    have htagFree : ∀ file ∈ collect oddTree [⟨"", ["pkg"]⟩], TagFree file.text.toList := by
      intro file hfile
      obtain ⟨names, node, hnames, hnode, hfile⟩ := (hmem file).mp hfile
      have hentry : (["pkg"] ++ names, node) ∈ oddTree.entries :=
        (oddTree_wellFormed.mem_entries_iff (by simp)).mpr hnode
      have hnamed : file = ⟨"", ["pkg"] ++ names⟩ := hfile
      rw [hnamed]
      exact oddTree_tagFree (["pkg"] ++ names, node) hentry
    obtain ⟨reason, hreason⟩ := hdirectories ["x.go"] checkable_odd rfl
    rw [hall htagFree, List.append_nil] at hreason
    rw [hall htagFree] at hshown
    exact ⟨shown, reason, hshown, hreason⟩

/-- Not all that is taken of a directory is a file, nor is all that a check warns about. -/
theorem directory_mem_collect :
    ⟨"", ["pkg", "x.go"]⟩ ∈ collect oddTree [⟨"", ["pkg"]⟩] ∧
    oddTree.isFile ⟨"", ["pkg", "x.go"]⟩ = false ∧
    ∀ checker json strict,
      warningAbout ⟨"", ["pkg", "x.go"]⟩
          (FileError.message ⟨.isDirectory, ⟨"", ["pkg", "x.go"]⟩⟩) ∈
        (checkScript checker oddTree [⟨"", ["pkg"]⟩] json strict).steps := by
  have hmem : ⟨"", ["pkg", "x.go"]⟩ ∈ collect oddTree [⟨"", ["pkg"]⟩] := by
    refine (mem_collect_iff oddTree_wellFormed oddTree_placeOf rfl _).mpr ?_
    exact ⟨["x.go"], .directory, checkable_odd, rfl, rfl⟩
  have hread : oddTree.read ⟨"", ["pkg", "x.go"]⟩ =
      .error ⟨.isDirectory, ⟨"", ["pkg", "x.go"]⟩⟩ := by
    decide +kernel
  refine ⟨hmem, by decide +kernel, fun checker json strict => ?_⟩
  refine (warn_mem_checkScript_iff checker oddTree _ json strict _).mpr ?_
  exact ⟨_, hmem, _, .noFile hread, rfl⟩

end Command

end NearMiss
