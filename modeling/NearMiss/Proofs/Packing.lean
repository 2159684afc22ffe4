import NearMiss.Proofs.Harvest
import NearMiss.Proofs.Lines

/-!
# Directories and archives of them

The files of a directory can be harvested where they stand, or from an archive in which they were
packed. The directory is walked from its `src` directory on, while the members of the archive are
taken or left by what stands between the slashes of their names. Both ways lead to the same files in
the same order, so they bring in the same methods. Only directories that have the name of a source
file are met on a walk and not in an archive, and they add nothing but a report.

How interfaces are found in a file is left open: what a file yields depends on its octets alone.
-/

namespace NearMiss

/-! ## Names between slashes -/

namespace Text

/-- Parts that are joined by a mark which none of them holds are split again. -/
theorem split_intercalate {mark : Char} {parts : List (List Char)} (hne : parts ≠ [])
    (hparts : ∀ part ∈ parts, mark ∉ part) : split mark ([mark].intercalate parts) = parts := by
  induction parts with
  | nil => exact absurd rfl hne
  | cons part later ih =>
    obtain ⟨hpart, hlater⟩ := List.forall_mem_cons.mp hparts
    cases later with
    | nil => rw [List.intercalate_singleton, split_of_not_mem hpart]
    | cons next later =>
      rw [List.intercalate_cons_cons, List.append_assoc, List.singleton_append, split_append_mark,
        split_of_not_mem hpart, ih (List.cons_ne_nil _ _) hlater]
      rfl

/-- Names that are joined by slashes are split again. -/
theorem splitString_intercalate {names : List String} (hne : names ≠ [])
    (hnames : ∀ name ∈ names, '/' ∉ name.toList) :
    splitString '/' ("/".intercalate names) = names := by
  have hsplit : split '/' (['/'].intercalate (names.map String.toList)) =
      names.map String.toList :=
    split_intercalate (by simpa using hne) (by simpa using hnames)
  have hmark : "/".toList = ['/'] := rfl
  rw [splitString, String.toList_intercalate, hmark, hsplit, List.map_map]
  exact (List.map_congr_left fun name _ => String.ofList_toList).trans (List.map_id' names)

end Text

/-! ## The files of a directory -/

namespace FileTree

variable {tree : FileTree} {place : Place} {files : List (List String × Content)}

/-- The list holds the regular files below a place, in the order of the names that lead there. -/
structure Lists (tree : FileTree) (place : Place) (files : List (List String × Content)) :
    Prop where
  /-- A file is listed with its content under the names that lead to it. -/
  mem_iff : ∀ file, file ∈ files ↔ tree.get? (place ++ file.1) = some (.file file.2)
  /-- The names are in order. -/
  ordered : files.Pairwise fun a b => a.1 < b.1

/-- The file that was found, unless it is a directory. -/
def fileOf? (found : List String × Node) : Option (List String × Content) :=
  match found.2 with
  | .directory => none
  | .file content => some (found.1, content)

/-- Of what is found, the files are kept. -/
theorem fileOf?_eq_some_iff {found : List String × Node} {file : List String × Content} :
    fileOf? found = some file ↔ found = (file.1, .file file.2) := by
  obtain ⟨names, node⟩ := found
  obtain ⟨names', content⟩ := file
  cases node with
  | directory => simp [fileOf?]
  | file other => simp [fileOf?]

/-- A walk from a directory inside meets the listed files of that directory. -/
theorem Lists.filterMap_walk (h : tree.Lists place files) (htree : tree.WellFormed)
    (name : String) :
    (tree.walk (place ++ [name])).filterMap fileOf? = files.filterMap (found? [name]) := by
  refine eq_of_pairwise_lt_of_mem_iff ?_ ?_ fun file => ?_
  · refine List.Pairwise.filterMap _ ?_ (htree.pairwise_walk (place ++ [name]))
    intro found other hlt file hfile further hfurther
    rw [fileOf?_eq_some_iff.mp hfile, fileOf?_eq_some_iff.mp hfurther] at hlt
    exact hlt
  · refine List.Pairwise.filterMap _ ?_ h.ordered
    intro file other hlt found hfound further hfurther
    rw [(found?_eq_some_iff.mp hfound).2, (found?_eq_some_iff.mp hfurther).2] at hlt
    exact List.cons_lt_cons_self.mp hlt
  · simp only [List.mem_filterMap, fileOf?_eq_some_iff, found?_eq_some_iff]
    constructor
    · rintro ⟨found, hfound, rfl⟩
      obtain ⟨hnil, hget⟩ := htree.mem_walk_iff.mp hfound
      refine ⟨([name] ++ file.1, file.2), (h.mem_iff _).mpr ?_, hnil, rfl⟩
      rw [← hget, List.append_assoc]
    · rintro ⟨listed, hlisted, hnil, rfl⟩
      refine ⟨(file.1, .file file.2), htree.mem_walk_iff.mpr ⟨hnil, ?_⟩, rfl⟩
      rw [← (h.mem_iff _).mp hlisted, List.append_assoc]

/-- No name on the way to a file has a slash. -/
theorem Lists.slashFree (h : tree.Lists place files) (htree : tree.WellFormed)
    {file : List String × Content} (hfile : file ∈ files) :
    ∀ name ∈ file.1, '/' ∉ name.toList := by
  intro name hname
  have hget := (h.mem_iff file).mp hfile
  have hmem := (htree.mem_entries_iff (place_ne_nil hget)).mpr hget
  exact htree.slashFree _ hmem name (List.mem_append_right _ hname)

end FileTree

/-! ## The same files from both sides -/

/-- The member of an archive that a file is packed as, in a directory of the given name. -/
def Member.packed (top : String) (file : List String × Content) : Member :=
  ⟨"/".intercalate (top :: file.1), true, file.2.octets⟩

namespace SourceFile

/-- The source file that is taken from an archive. -/
def ofPacked (top : String) (file : List String × Content) : SourceFile :=
  ⟨"/".intercalate (top :: "src" :: file.1), file.1, .ok file.2.octets⟩

/-- A packed file is a source file if it stands in the `src` directory. -/
theorem ofMember?_packed {top : String} {file : List String × Content} (htop : '/' ∉ top.toList)
    (hfile : ∀ name ∈ file.1, '/' ∉ name.toList) :
    ofMember? (Member.packed top file) =
      (FileTree.found? ["src"] file).map (ofPacked top) := by
  have hsplit : Text.splitString '/' (Member.packed top file).name = top :: file.1 :=
    Text.splitString_intercalate (List.cons_ne_nil _ _) (List.forall_mem_cons.mpr ⟨htop, hfile⟩)
  refine Option.ext fun source => ?_
  rw [ofMember?_eq_some_iff, hsplit, Option.map_eq_some_iff]
  simp only [FileTree.found?_eq_some_iff, List.tail_cons]
  constructor
  · rintro ⟨-, hnames, hnil, hlabel, hoctets⟩
    obtain ⟨label, names, octets⟩ := source
    obtain ⟨path, content⟩ := file
    obtain rfl : path = "src" :: names := hnames
    refine ⟨(names, content), ⟨hnil, rfl⟩, ?_⟩
    rw [SourceFile.mk.injEq]
    exact ⟨hlabel.symm, rfl, hoctets.symm⟩
  · rintro ⟨found, ⟨hnil, rfl⟩, rfl⟩
    exact ⟨rfl, rfl, hnil, rfl, rfl⟩

/-- The source files of an archive are those that a walk from the `src` directory meets. -/
theorem filterMap_ofMember?_packed {tree : FileTree} {place : Place}
    {files : List (List String × Content)} (htree : tree.WellFormed)
    (hfiles : tree.Lists place files) {top : String} (htop : '/' ∉ top.toList) :
    (files.map (Member.packed top)).filterMap ofMember? =
      ((tree.walk (place ++ ["src"])).filterMap FileTree.fileOf?).map (ofPacked top) := by
  rw [hfiles.filterMap_walk htree, List.filterMap_map, List.map_filterMap]
  exact List.filterMap_congr fun file hfile =>
    ofMember?_packed htop (hfiles.slashFree htree hfile)

/-- A file that is accepted has the name of a source file. -/
theorem isSourceName_of_isAccepted {excluded names : List String}
    (h : isAccepted excluded names = true) :
    FileTree.isSourceName (names.getLastD "") = true := by
  rw [isAccepted] at h
  split at h
  · simp at h
  · next name hname =>
    rw [List.getLastD_eq_getLast?, hname, Option.getD_some]
    simp only [Bool.and_eq_true] at h
    exact h.1.1.2

/-- The place where a file stands and the name under which it is reported do not matter for what is
read from it. -/
theorem scan_ofPacked (find : Go.Interface.Finder) (minParams : Nat) (root : Path) (top : String)
    (file : List String × Content) :
    (∃ methods, (ofPacked top file).scan minParams find = .ok methods ∧
      (ofFound root (file.1, .file file.2)).scan minParams find = .ok methods) ∨
    ∃ error, (ofPacked top file).scan minParams find = .error ⟨(ofPacked top file).label, error⟩ ∧
      (ofFound root (file.1, .file file.2)).scan minParams find =
        .error ⟨(root.descend file.1).text, error⟩ := by
  simp only [scan, ofPacked, ofFound, package]
  cases Go.Interface.extract ("/".intercalate file.1.dropLast) minParams file.2.octets find with
  | error error => exact Or.inr ⟨.undecodable error, rfl, rfl⟩
  | ok methods => exact Or.inl ⟨methods, rfl, rfl⟩

end SourceFile

namespace Harvest

open SourceFile FileTree

variable {settings : Settings} {find : Go.Interface.Finder}

/-- Files that are not accepted can be left out. -/
theorem ofFiles_filter {p : SourceFile → Bool} {files : List SourceFile}
    (hp : ∀ file ∈ files, isAccepted settings.excludedDirs file.names = true → p file = true) :
    ofFiles settings (files.filter p) find = ofFiles settings files find := by
  rw [ofFiles, ofFiles, List.foldl_filter]
  refine List.foldl_ext _ _ _ fun harvest file hfile => ?_
  split
  · rfl
  · next hnot =>
    rw [gather, if_neg]
    exact fun haccepted => hnot (hp file hfile haccepted)

/-- Two reports about the same file, one from an archive and one from a directory, give the same
reason. -/
def SameReport (root : Path) (top : String) (packed found : Skipped) : Prop :=
  packed.error = found.error ∧ ∃ names, packed.label = "/".intercalate (top :: "src" :: names) ∧
    found.label = (root.descend names).text

/-- The harvest of packed files agrees with that of files found on a walk. The reports agree if the
walk has met files only, which is left open here. -/
structure Agrees (root : Path) (top : String) (filesOnly : Prop) (packed found : Harvest) :
    Prop where
  /-- The methods are the same, in the same order. -/
  methods_eq : packed.methods = found.methods
  /-- The same number of files was read. -/
  filesScanned_eq : packed.filesScanned = found.filesScanned
  /-- The reports are about the same files, in the same order, and give the same reasons. -/
  reports : filesOnly → List.Forall₂ (SameReport root top) packed.skipped found.skipped

variable {root : Path} {top : String}

/-- Harvests that agree follow each other in agreement. -/
theorem Agrees.append {front back : Prop} {packed found packed' found' : Harvest}
    (h : Agrees root top front packed found) (h' : Agrees root top back packed' found') :
    Agrees root top (front ∧ back) (packed ++ packed') (found ++ found') where
  methods_eq := by rw [append_def, append_def, h.methods_eq, h'.methods_eq]
  filesScanned_eq := by rw [append_def, append_def, h.filesScanned_eq, h'.filesScanned_eq]
  reports := fun ⟨hfront, hback⟩ => List.rel_append (h.reports hfront) (h'.reports hback)

/-- Harvests agree under a stronger condition, too. -/
theorem Agrees.imp {before after : Prop} {packed found : Harvest}
    (h : Agrees root top before packed found) (himp : after → before) :
    Agrees root top after packed found :=
  ⟨h.methods_eq, h.filesScanned_eq, fun hafter => h.reports (himp hafter)⟩

/-- A file adds the same from an archive as from a directory. -/
theorem agrees_file (settings : Settings) (find : Go.Interface.Finder) (root : Path)
    (top : String) (file : List String × Content) :
    Agrees root top True (ofFiles settings [ofPacked top file] find)
      (ofFiles settings [ofFound root (file.1, .file file.2)] find) := by
  simp only [ofFiles, List.foldl_cons, List.foldl_nil, gather]
  have hnames : (ofPacked top file).names = (ofFound root (file.1, .file file.2)).names := rfl
  rw [hnames]
  split
  · rcases scan_ofPacked find settings.minParams root top file with
      ⟨methods, hpacked, hfound⟩ | ⟨error, hpacked, hfound⟩
    · simp only [hpacked, hfound]
      exact ⟨rfl, rfl, fun _ => .nil⟩
    · simp only [hpacked, hfound]
      exact ⟨rfl, rfl, fun _ => .cons ⟨rfl, file.1, rfl, rfl⟩ .nil⟩
  · exact ⟨rfl, rfl, fun _ => .nil⟩

/-- A directory adds neither methods nor a file that was read. -/
theorem agrees_directory (settings : Settings) (find : Go.Interface.Finder) (root : Path)
    (top : String) (names : List String) :
    Agrees root top False empty (ofFiles settings [ofFound root (names, .directory)] find) := by
  simp only [ofFiles, List.foldl_cons, List.foldl_nil, gather, scan, ofFound]
  split
  · exact ⟨rfl, rfl, False.elim⟩
  · exact ⟨rfl, rfl, False.elim⟩

/-- What was found on a walk adds the same as the files among it do from an archive. -/
theorem agrees_found (settings : Settings) (find : Go.Interface.Finder) (root : Path)
    (top : String) (found : List (List String × Node)) :
    Agrees root top (∀ f ∈ found, f.2 ≠ .directory)
      (ofFiles settings ((found.filterMap fileOf?).map (ofPacked top)) find)
      (ofFiles settings (found.map (ofFound root)) find) := by
  induction found with
  | nil => exact ⟨rfl, rfl, fun _ => .nil⟩
  | cons f later ih =>
    obtain ⟨names, node⟩ := f
    rw [List.map_cons, ofFiles_cons]
    cases node with
    | directory =>
      rw [List.filterMap_cons_none rfl, ← empty_append (ofFiles settings (List.map _ _) find)]
      refine ((agrees_directory settings find root top names).append ih).imp fun hfiles => ?_
      exact absurd rfl (hfiles _ List.mem_cons_self)
    | file content =>
      have hfile : fileOf? (names, .file content) = some (names, content) := rfl
      rw [List.filterMap_cons_some hfile, List.map_cons, ofFiles_cons]
      refine ((agrees_file settings find root top (names, content)).append ih).imp
        fun hfiles => ?_
      exact ⟨trivial, fun f hf => hfiles f (List.mem_cons_of_mem _ hf)⟩

/-- Among packed files, those that have no name of a source file can be left out. -/
theorem ofFiles_packed_filter (settings : Settings) (find : Go.Interface.Finder) (top : String)
    (found : List (List String × Node)) :
    ofFiles settings ((found.filterMap fileOf?).map (ofPacked top)) find =
      ofFiles settings (((found.filter fun f => isSourceName (f.1.getLastD "")).filterMap
        fileOf?).map (ofPacked top)) find := by
  have hfilter : (found.filter fun f => isSourceName (f.1.getLastD "")).filterMap fileOf? =
      (found.filterMap fileOf?).filter fun file => isSourceName (file.1.getLastD "") := by
    rw [List.filterMap_filter, List.filter_filterMap]
    refine List.filterMap_congr fun f _ => ?_
    obtain ⟨names, node⟩ := f
    cases node with
    | directory => simp [fileOf?]
    | file content => simp [fileOf?, Option.filter_some]
  rw [hfilter, ← ofFiles_filter (p := fun file => isSourceName (file.names.getLastD "")),
    List.filter_map]
  · rfl
  · exact fun file _ haccepted => isSourceName_of_isAccepted haccepted

/-- A directory with a `src` directory gives the same harvest as an archive in which its regular
files are packed, in order, as those of a directory of any name: the same methods in the same order,
the same number of files that were read and the same number of interfaces. If no directory inside
has the name of a source file, the reports correspond as well: they are about the same files in the
same order, and only the names of the files differ. This holds for any way in which interfaces are
found in the octets of a file. -/
theorem ofArchive_agrees_ofDirectory (settings : Settings) (find : Go.Interface.Finder)
    {tree : FileTree} (htree : tree.WellFormed) {path : Path} {place : Place}
    (hpath : tree.placeOf path = .ok place) (hsrc : tree.isDirectory (path.child "src") = true)
    {files : List (List String × Content)} (hfiles : tree.Lists place files) {top : String}
    (htop : '/' ∉ top.toList) {other : FileTree} {archive : Path}
    (harchive : other.content archive = .ok (.archive (files.map (Member.packed top)))) :
    ∃ harvest, ofArchive settings other archive find = .ok harvest ∧
      harvest.methods = (ofDirectory settings tree path find).methods ∧
      harvest.filesScanned = (ofDirectory settings tree path find).filesScanned ∧
      harvest.interfacesCount = (ofDirectory settings tree path find).interfacesCount ∧
      ((∀ names name, tree.get? (place ++ names ++ [name]) = some .directory →
          isSourceName name = false) →
        List.Forall₂ (SameReport (path.child "src") top) harvest.skipped
          (ofDirectory settings tree path find).skipped) := by
  obtain ⟨hroot, hdirectory⟩ := placeOf_child hpath (by decide) hsrc
  have hfound : ofDirectory settings tree path find = ofFiles settings
      ((tree.sources (path.child "src")).map (ofFound (path.child "src"))) find := by
    rw [ofDirectory, SourceFile.ofDirectory, rootOf, if_pos hsrc]
  have hpacked : ofMembers settings (files.map (Member.packed top)) find = ofFiles settings
      (((tree.sources (path.child "src")).filterMap fileOf?).map (ofPacked top)) find := by
    rw [ofMembers, filterMap_ofMember?_packed htree hfiles htop, sources_eq_filter hroot hdirectory]
    exact ofFiles_packed_filter settings find top _
  have hagrees :=
    agrees_found settings find (path.child "src") top (tree.sources (path.child "src"))
  rw [← hfound, ← hpacked] at hagrees
  refine ⟨ofMembers settings (files.map (Member.packed top)) find, ?_, hagrees.methods_eq,
    hagrees.filesScanned_eq, ?_, fun hnames => hagrees.reports fun f hf hnode => ?_⟩
  · simp only [ofArchive, harchive]
  · rw [interfacesCount, interfacesCount, hagrees.methods_eq]
  · -- A directory that the walk has met has the name of a source file.
    rw [sources_eq_filter hroot hdirectory, List.mem_filter, htree.mem_walk_iff, hnode] at hf
    obtain ⟨⟨hnil, hget⟩, hsource⟩ := hf
    have hlast := hnames ("src" :: f.1.dropLast) (f.1.getLast hnil)
    rw [List.append_assoc, List.cons_append, List.dropLast_concat_getLast hnil] at hlast
    rw [List.getLastD_eq_getLast?, List.getLast?_eq_some_getLast hnil, Option.getD_some,
      hlast (by simpa using hget)] at hsource
    exact Bool.false_ne_true hsource

/-- The files of a release: some outside the source directory or below an excluded one, a second
`src` directory, and a file that cannot be read. -/
def releaseFiles : List (List String × Content) :=
  [(["VERSION"], .plain []),
    (["misc", "a.go"], .plain getterOctets),
    (["src", "io", "testdata", "a.go"], .plain getterOctets),
    (["src", "src", "b.go"], .plain brokenOctets),
    (["src", "top.go"], .plain getterOctets)]

/-- The release as a tree. -/
def releaseTree : FileTree where
  entries := [(["go"], .directory), (["go", "src"], .directory), (["go", "src", "io"], .directory),
    (["go", "src", "io", "testdata"], .directory), (["go", "src", "src"], .directory),
    (["go", "misc"], .directory)] ++
      releaseFiles.map fun file => ("go" :: file.1, .file file.2)
  current := []

/-- The packed release as the only file of a tree. -/
def packedRelease : FileTree :=
  ⟨[(["go.tgz"], .file (.archive (releaseFiles.map (Member.packed "go1.22"))))], []⟩

/-- A release agrees with its archive, whatever stands beside the sources. -/
theorem ofArchive_agrees_ofDirectory_release :
    releaseTree.WellFormed ∧ releaseTree.Lists ["go"] releaseFiles ∧
      ∃ harvest, ofArchive {} packedRelease ⟨"", ["go.tgz"]⟩ = .ok harvest ∧
        harvest.methods = (ofDirectory {} releaseTree ⟨"", ["go"]⟩).methods ∧
        harvest.filesScanned = (ofDirectory {} releaseTree ⟨"", ["go"]⟩).filesScanned ∧
        harvest.interfacesCount = (ofDirectory {} releaseTree ⟨"", ["go"]⟩).interfacesCount ∧
        List.Forall₂ (SameReport ⟨"", ["go", "src"]⟩ "go1.22") harvest.skipped
          (ofDirectory {} releaseTree ⟨"", ["go"]⟩).skipped := by
  have hformed : releaseTree.WellFormed := ⟨by decide, by decide⟩
  have hlists : releaseTree.Lists ["go"] releaseFiles := by
    refine ⟨fun file => ?_, by decide⟩
    rw [← hformed.mem_entries_iff (by simp)]
    simp [releaseTree, releaseFiles, Prod.ext_iff]
  have hnames : ∀ names name, releaseTree.get? (["go"] ++ names ++ [name]) = some .directory →
      isSourceName name = false := by
    intro names name hget
    have hall : ∀ entry ∈ releaseTree.entries, entry.2 = .directory →
        isSourceName (entry.1.getLastD "") = false := by decide
    have hlast := hall _ ((hformed.mem_entries_iff (by simp)).mpr hget) rfl
    rwa [List.getLastD_concat] at hlast
  have hpath : releaseTree.placeOf ⟨"", ["go"]⟩ = .ok ["go"] := rfl
  have htop : '/' ∉ "go1.22".toList := by decide
  have harchive : packedRelease.content ⟨"", ["go.tgz"]⟩ =
      .ok (.archive (releaseFiles.map (Member.packed "go1.22"))) := rfl
  obtain ⟨harvest, hok, hmethods, hscanned, hcount, hreports⟩ :=
    ofArchive_agrees_ofDirectory {} Go.Interface.ofSource hformed hpath rfl hlists htop harchive
  exact ⟨hformed, hlists, harvest, hok, hmethods, hscanned, hcount, hreports hnames⟩

end Harvest

end NearMiss
