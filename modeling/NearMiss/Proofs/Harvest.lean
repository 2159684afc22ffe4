import NearMiss.Proofs.Walk
import NearMiss.Release
import Mathlib.Data.List.Forall2

/-!
# What one file adds to a harvest

A harvest grows file by file. What a file adds does not depend on what was gathered before it, so a
harvest is the sum of what its files add, in their order: the methods of a file that can be read, or
one report about a file that cannot. A file that turns out to be no text half-way adds none of the
methods that were read before that.

All of this holds for any way in which interfaces are found in the octets of a file.
-/

namespace NearMiss

/-! ## Reading one file -/

namespace SourceFile

variable {find : Go.Interface.Finder} {minParams : Nat} {file : SourceFile}

/-- A source file can be read, and these are its methods. -/
def Yields (find : Go.Interface.Finder) (minParams : Nat) (file : SourceFile)
    (methods : List InterfaceMethod) : Prop :=
  ∃ octets, file.octets = .ok octets ∧
    Go.Interface.extract file.package minParams octets find = .ok methods

/-- A source file cannot be read, or a name or a method in it is no text. -/
inductive Fails (find : Go.Interface.Finder) (minParams : Nat) (file : SourceFile) :
    ScanError → Prop
  /-- Its octets cannot be had. -/
  | unreadable {error : FileError} (hread : file.octets = .error error) :
    Fails find minParams file (.unreadable error)
  /-- Its octets are refused. -/
  | undecodable {octets : List UInt8} {error : Text.Utf8Error} (hread : file.octets = .ok octets)
    (hextract : Go.Interface.extract file.package minParams octets find = .error error) :
    Fails find minParams file (.undecodable error)

/-- A source file has methods, perhaps none of them worth comparing. -/
def IsRead (find : Go.Interface.Finder) (minParams : Nat) (file : SourceFile) : Prop :=
  ∃ methods, file.Yields find minParams methods

/-- A source file of the directory at a path stands at the given place of the tree. -/
def StandsAt (tree : FileTree) (path : Path) (place : Place) (file : SourceFile) : Prop :=
  ∃ base, tree.placeOf (rootOf tree path) = .ok base ∧ base ++ file.names = place

/-- A scan gives the methods of a file that can be read. -/
theorem scan_eq_ok_iff {methods : List InterfaceMethod} :
    file.scan minParams find = .ok methods ↔ file.Yields find minParams methods := by
  rw [scan, Yields]
  cases hread : file.octets with
  | error error => simp
  | ok octets =>
    cases hextract : Go.Interface.extract file.package minParams octets find with
    | error error => simp [hextract]
    | ok found => simp [hextract]

/-- A scan reports a file that fails, under its label. -/
theorem scan_eq_error_iff {skipped : Skipped} :
    file.scan minParams find = .error skipped ↔
      skipped.label = file.label ∧ file.Fails find minParams skipped.error := by
  obtain ⟨label, cause⟩ := skipped
  rw [scan]
  constructor
  · intro h
    split at h
    · next error hread =>
      obtain ⟨rfl, rfl⟩ := Skipped.mk.inj (Except.error.inj h)
      exact ⟨rfl, .unreadable hread⟩
    · next octets hread =>
      split at h
      · next error hextract =>
        obtain ⟨rfl, rfl⟩ := Skipped.mk.inj (Except.error.inj h)
        exact ⟨rfl, .undecodable hread hextract⟩
      · simp at h
  · rintro ⟨rfl, hfails⟩
    cases hfails with
    | unreadable hread => simp only [hread]
    | undecodable hread hextract => simp only [hread, hextract]

instance : Decidable (file.IsRead find minParams) :=
  decidable_of_iff ((file.scan minParams find).isOk = true) <| by
    simp only [IsRead, ← scan_eq_ok_iff]
    cases file.scan minParams find <;> simp [Except.isOk, Except.toBool]

/-- A regular member is a source file if its name leads into the `src` directory of what was
packed. -/
theorem ofMember?_eq_some_iff {m : Member} :
    ofMember? m = some file ↔
      m.isRegular = true ∧ (Text.splitString '/' m.name).tail = "src" :: file.names ∧
        file.names ≠ [] ∧ file.label = m.name ∧ file.octets = .ok m.octets := by
  obtain ⟨label, names, octets⟩ := file
  rw [ofMember?]
  constructor
  · intro h
    split at h
    · next hregular =>
      split at h
      · next name later hname =>
        obtain ⟨rfl, rfl, rfl⟩ := SourceFile.mk.inj (Option.some.inj h)
        exact ⟨hregular, hname, List.cons_ne_nil _ _, rfl, rfl⟩
      · simp at h
    · simp at h
  · rintro ⟨hregular, hname, hnames, rfl, rfl⟩
    obtain ⟨name, later, rfl⟩ := List.exists_cons_of_ne_nil hnames
    simp only [if_pos hregular, hname]

end SourceFile

namespace Harvest

open SourceFile

variable {settings : Settings} {find : Go.Interface.Finder}

/-! ## The sum of what files add -/

/-- Harvests are put together part by part. -/
instance : Append Harvest where
  append front back := ⟨front.methods ++ back.methods, front.filesScanned + back.filesScanned,
    front.skipped ++ back.skipped⟩

/-- The parts of two harvests that are put together. -/
theorem append_def (front back : Harvest) :
    front ++ back = ⟨front.methods ++ back.methods, front.filesScanned + back.filesScanned,
      front.skipped ++ back.skipped⟩ := rfl

/-- Nothing is added by no files. -/
@[simp]
theorem append_empty (harvest : Harvest) : harvest ++ empty = harvest := by
  simp [append_def, empty]

/-- A harvest begins with nothing. -/
@[simp]
theorem empty_append (harvest : Harvest) : empty ++ harvest = harvest := by
  simp [append_def, empty]

/-- Harvests can be put together in any grouping. -/
theorem append_assoc (front middle back : Harvest) :
    front ++ middle ++ back = front ++ (middle ++ back) := by
  simp [append_def, Nat.add_assoc]

/-- What a file adds does not depend on what was gathered before it. -/
theorem gather_append (front back : Harvest) (file : SourceFile) :
    gather settings (front ++ back) file find = front ++ gather settings back file find := by
  simp only [gather]
  split
  · split
    · simp [append_def]
    · simp [append_def, Nat.add_assoc]
  · rfl

/-- Files that are gathered after a harvest add to it what they bring on their own. -/
theorem foldl_gather (harvest : Harvest) (files : List SourceFile) :
    files.foldl (gather settings · · find) harvest = harvest ++ ofFiles settings files find := by
  -- Both sides run through the files from the front, so the harvest in front may grow.
  suffices hfold : ∀ back, files.foldl (gather settings · · find) (harvest ++ back) =
      harvest ++ files.foldl (gather settings · · find) back by
    simpa [ofFiles] using hfold empty
  induction files with
  | nil => exact fun _ => rfl
  | cons file later ih =>
    intro back
    rw [List.foldl_cons, gather_append, ih, List.foldl_cons]

/-- The harvests of two lists of files are put together. -/
theorem ofFiles_append (front back : List SourceFile) :
    ofFiles settings (front ++ back) find =
      ofFiles settings front find ++ ofFiles settings back find := by
  rw [ofFiles, List.foldl_append, foldl_gather]
  rfl

/-- What the first file adds comes first. -/
theorem ofFiles_cons (file : SourceFile) (later : List SourceFile) :
    ofFiles settings (file :: later) find =
      ofFiles settings [file] find ++ ofFiles settings later find :=
  ofFiles_append [file] later

/-- The harvest of files is the sum of what they add. -/
theorem ofFiles_append_cons (before after : List SourceFile) (file : SourceFile) :
    ofFiles settings (before ++ file :: after) find =
      ofFiles settings before find ++ ofFiles settings [file] find ++
        ofFiles settings after find := by
  rw [ofFiles_append, ofFiles_cons, append_assoc]

/-! ## The files behind a harvest -/

/-- The files that are harvested of those that are offered. -/
def accepted (settings : Settings) (offered : List SourceFile) : List SourceFile :=
  offered.filter fun file => isAccepted settings.excludedDirs file.names

/-- The harvest collects the files: it reports each of them that fails, holds the methods of all
others, and counts every file on one side or the other. -/
structure Collects (find : Go.Interface.Finder) (minParams : Nat) (files : List SourceFile)
    (harvest : Harvest) : Prop where
  /-- There is one report for each file that fails, in order, with its label and its failure. -/
  reports : List.Forall₂
    (fun file skipped => skipped.label = file.label ∧ file.Fails find minParams skipped.error)
    (files.filter fun file => ¬file.IsRead find minParams) harvest.skipped
  /-- The methods are those of the files that are read, in order. -/
  gathers : ∃ parts, List.Forall₂ (Yields find minParams)
    (files.filter fun file => file.IsRead find minParams) parts ∧ harvest.methods = parts.flatten
  /-- Every file is read or reported. -/
  counts : harvest.filesScanned + harvest.skipped.length = files.length

/-- No files make up the empty harvest. -/
theorem Collects.empty (find : Go.Interface.Finder) (minParams : Nat) :
    Collects find minParams [] Harvest.empty :=
  ⟨.nil, ⟨[], .nil, rfl⟩, rfl⟩

/-- One more accepted file goes to one side, and the other side stays as it was. -/
theorem Collects.gather {files : List SourceFile} {harvest : Harvest}
    (h : Collects find settings.minParams files harvest) {file : SourceFile}
    (hfile : isAccepted settings.excludedDirs file.names = true) :
    Collects find settings.minParams (files ++ [file]) (gather settings harvest file find) := by
  obtain ⟨parts, hparts, hmethods⟩ := h.gathers
  have hcounts := h.counts
  rw [Harvest.gather, if_pos hfile]
  cases hscan : file.scan settings.minParams find with
  | error skipped =>
    have hnot : ¬file.IsRead find settings.minParams := by
      rintro ⟨methods, hyields⟩
      simp [scan_eq_ok_iff.mpr hyields] at hscan
    refine ⟨?_, ⟨parts, ?_, hmethods⟩, ?_⟩
    · rw [List.filter_append, List.filter_singleton, decide_eq_true hnot]
      exact List.rel_append h.reports (.cons (scan_eq_error_iff.mp hscan) .nil)
    · rw [List.filter_append, List.filter_singleton, decide_eq_false hnot]
      simpa using hparts
    · simp only [List.length_append, List.length_singleton]
      omega
  | ok methods =>
    have hread : file.IsRead find settings.minParams := ⟨methods, scan_eq_ok_iff.mp hscan⟩
    refine ⟨?_, ⟨parts ++ [methods], ?_, ?_⟩, ?_⟩
    · rw [List.filter_append, List.filter_singleton, decide_eq_false (not_not_intro hread)]
      simpa using h.reports
    · rw [List.filter_append, List.filter_singleton, decide_eq_true hread]
      exact List.rel_append hparts (.cons (scan_eq_ok_iff.mp hscan) .nil)
    · simp [hmethods]
    · simp only [List.length_append, List.length_singleton]
      omega

/-- Of further files the accepted ones are collected, one after the other. -/
theorem Collects.foldl {before : List SourceFile} {harvest : Harvest}
    (h : Collects find settings.minParams before harvest) (files : List SourceFile) :
    Collects find settings.minParams (before ++ accepted settings files)
      (files.foldl (Harvest.gather settings · · find) harvest) := by
  induction files generalizing before harvest with
  | nil => simpa [accepted] using h
  | cons file later ih =>
    rw [List.foldl_cons, accepted, List.filter_cons]
    by_cases hfile : isAccepted settings.excludedDirs file.names = true
    · rw [if_pos hfile, List.append_cons]
      exact ih (h.gather hfile)
    · have hsame : Harvest.gather settings harvest file find = harvest := by
        rw [Harvest.gather, if_neg hfile]
      rw [if_neg hfile, hsame]
      exact ih h

/-- A harvest collects the accepted ones of its files. -/
theorem collects_ofFiles (settings : Settings) (find : Go.Interface.Finder)
    (files : List SourceFile) :
    Collects find settings.minParams (accepted settings files) (ofFiles settings files find) :=
  (Collects.empty find settings.minParams).foldl files

/-- Every method of a harvest comes from one of the files that are read. -/
theorem exists_yields_of_mem_ofFiles {files : List SourceFile} {r : InterfaceMethod}
    (hr : r ∈ (ofFiles settings files find).methods) :
    ∃ file ∈ files, isAccepted settings.excludedDirs file.names = true ∧
      ∃ methods, file.Yields find settings.minParams methods ∧ r ∈ methods := by
  obtain ⟨parts, hparts, hmethods⟩ := (collects_ofFiles settings find files).gathers
  rw [hmethods] at hr
  obtain ⟨methods, hmem, hr⟩ := List.mem_flatten.mp hr
  obtain ⟨i, rfl⟩ := List.get_of_mem hmem
  have hi := Nat.lt_of_lt_of_eq i.isLt hparts.length_eq.symm
  have hyields := hparts.get hi i.isLt
  have hfile := (List.mem_filter.mp (List.get_mem _ ⟨i, hi⟩)).1
  obtain ⟨hoffered, haccepted⟩ := List.mem_filter.mp hfile
  exact ⟨_, hoffered, haccepted, _, hyields, hr⟩

/-! ## Another content for one file -/

/-- Two harvests that agree but for what a file adds, which has other octets in the second. -/
def DifferIn (settings : Settings) (find : Go.Interface.Finder) (file : SourceFile)
    (new : Except FileError (List UInt8)) (harvest changed : Harvest) : Prop :=
  ∃ front back, harvest = front ++ ofFiles settings [file] find ++ back ∧
    changed = front ++ ofFiles settings [{ file with octets := new }] find ++ back

/-- The harvest of given files after one of them got other octets. -/
theorem differIn_ofFiles (settings : Settings) (find : Go.Interface.Finder)
    (before after : List SourceFile) (file : SourceFile) (new : Except FileError (List UInt8)) :
    DifferIn settings find file new (ofFiles settings (before ++ file :: after) find)
      (ofFiles settings (before ++ { file with octets := new } :: after) find) :=
  ⟨ofFiles settings before find, ofFiles settings after find,
    ofFiles_append_cons before after file, ofFiles_append_cons before after _⟩

/-- The harvest of a directory after a file in the tree got another content. -/
theorem differIn_ofDirectory (settings : Settings) (find : Go.Interface.Finder) {tree : FileTree}
    (htree : tree.WellFormed) {place : Place} {old : Content}
    (hold : tree.get? place = some (.file old)) (new : Content) (path : Path) :
    (ofDirectory settings (tree.set place (.file new)) path find =
        ofDirectory settings tree path find ∧
      ∀ file ∈ SourceFile.ofDirectory tree path, ¬file.StandsAt tree path place) ∨
      ∃ file ∈ SourceFile.ofDirectory tree path, file.StandsAt tree path place ∧
        DifferIn settings find file (.ok new.octets) (ofDirectory settings tree path find)
          (ofDirectory settings (tree.set place (.file new)) path find) := by
  have hroot : rootOf (tree.set place (.file new)) path = rootOf tree path := by
    rw [rootOf, rootOf, FileTree.isDirectory_set_file hold]
  rw [ofDirectory, ofDirectory, SourceFile.ofDirectory, SourceFile.ofDirectory, hroot]
  rcases htree.sources_set_file hold new (rootOf tree path) with
    ⟨hsame, hother⟩ | ⟨base, names, before, after, hbase, hplace, hsources, hset⟩
  · left
    refine ⟨by rw [hsame], fun file hfile => ?_⟩
    obtain ⟨found, hfound, rfl⟩ := List.mem_map.mp hfile
    rintro ⟨base, hbase, hplace⟩
    exact hother found hfound base hbase hplace
  · right
    refine ⟨ofFound (rootOf tree path) (names, .file old), ?_, ⟨base, hbase, hplace⟩, ?_⟩
    · rw [hsources]
      exact List.mem_map_of_mem (List.mem_append_right _ List.mem_cons_self)
    · rw [hsources, hset, List.map_append, List.map_append, List.map_cons, List.map_cons]
      exact differIn_ofFiles settings find _ _ (ofFound (rootOf tree path) (names, .file old)) _

/-- A member is taken for a source file by its kind and its name alone. -/
theorem ofMember?_octets {m : Member} {file : SourceFile} (h : ofMember? m = some file)
    (octets : List UInt8) :
    ofMember? { m with octets := octets } = some { file with octets := .ok octets } := by
  rw [ofMember?_eq_some_iff] at *
  exact ⟨h.1, h.2.1, h.2.2.1, h.2.2.2.1, rfl⟩

/-- The octets of a member that is no source file do not matter. -/
theorem ofMembers_octets_of_none (settings : Settings) (find : Go.Interface.Finder)
    (before after : List Member) {m : Member} (hmember : ofMember? m = none)
    (octets : List UInt8) :
    ofMembers settings (before ++ { m with octets := octets } :: after) find =
      ofMembers settings (before ++ m :: after) find := by
  have hnone : ofMember? { m with octets := octets } = none := by
    refine Option.eq_none_iff_forall_ne_some.mpr fun file hfile => ?_
    simp [ofMember?_octets hfile m.octets] at hmember
  rw [ofMembers, ofMembers, List.filterMap_append, List.filterMap_append,
    List.filterMap_cons_none hmember, List.filterMap_cons_none hnone]

/-- The harvest of an archive after a member got other octets. -/
theorem differIn_ofMembers (settings : Settings) (find : Go.Interface.Finder)
    (before after : List Member) {m : Member} {file : SourceFile}
    (hmember : ofMember? m = some file) (octets : List UInt8) :
    DifferIn settings find file (.ok octets) (ofMembers settings (before ++ m :: after) find)
      (ofMembers settings (before ++ { m with octets := octets } :: after) find) := by
  rw [ofMembers, ofMembers, List.filterMap_append, List.filterMap_append,
    List.filterMap_cons_some hmember,
    List.filterMap_cons_some (ofMember?_octets hmember octets)]
  exact differIn_ofFiles settings find _ _ file _

/-! ## Files that fail half-way -/

/-- An interface that cannot be read makes the file unreadable, whatever was read before it. -/
theorem extract_eq_error {package : String} {minParams : Int} {octets : List UInt8}
    {before after : List Go.Interface} {bad : Go.Interface}
    {earlier : List (List InterfaceMethod)} {error : Text.Utf8Error}
    (hsource : find octets = before ++ bad :: after)
    (hbefore : before.mapM (Go.Interface.readMethods package minParams) = .ok earlier)
    (hbad : Go.Interface.readMethods package minParams bad = .error error) :
    Go.Interface.extract package minParams octets find = .error error := by
  rw [Go.Interface.extract, hsource, List.mapM_append, hbefore, List.mapM_cons, hbad]
  rfl

/-- A file that fails adds no methods. -/
theorem methods_ofFiles_of_fails {file : SourceFile} {error : ScanError}
    (h : file.Fails find settings.minParams error) (before after : List SourceFile) :
    (ofFiles settings (before ++ file :: after) find).methods =
      (ofFiles settings before find).methods ++ (ofFiles settings after find).methods := by
  have hscan : file.scan settings.minParams find = .error ⟨file.label, error⟩ :=
    scan_eq_error_iff.mpr ⟨rfl, h⟩
  have hnone : (ofFiles settings [file] find).methods = [] := by
    simp only [ofFiles, List.foldl_cons, List.foldl_nil, gather, hscan]
    split
    · rfl
    · rfl
  rw [ofFiles_append_cons, append_def, append_def, hnone]
  simp

/-- A harvest collects exactly the accepted files: it counts each of them as read or reports it, in
their order, and holds the methods of those that are read. A file in which an interface cannot be
read after others could be fails as a whole and adds none of their methods. If one file gets other
octets, the harvest changes in nothing but what that file adds, be it a harvest of given files, of a
directory or of an archive. None of this depends on how interfaces are found in the octets of a
file. -/
theorem gathers_file_by_file (settings : Settings) (find : Go.Interface.Finder) :
    (∀ files, Collects find settings.minParams (accepted settings files)
      (ofFiles settings files find)) ∧
    (∀ tree path, Collects find settings.minParams
      (accepted settings (SourceFile.ofDirectory tree path))
      (ofDirectory settings tree path find)) ∧
    (∀ members, Collects find settings.minParams
      (accepted settings (members.filterMap ofMember?)) (ofMembers settings members find)) ∧
    (∀ (file : SourceFile) octets before bad after earlier error, file.octets = .ok octets →
      find octets = before ++ bad :: after →
      before.mapM (Go.Interface.readMethods file.package settings.minParams) = .ok earlier →
      Go.Interface.readMethods file.package settings.minParams bad = .error error →
      file.Fails find settings.minParams (.undecodable error) ∧
        ∀ front back, (ofFiles settings (front ++ file :: back) find).methods =
          (ofFiles settings front find).methods ++ (ofFiles settings back find).methods) ∧
    (∀ before after (file : SourceFile) new, DifferIn settings find file new
      (ofFiles settings (before ++ file :: after) find)
      (ofFiles settings (before ++ { file with octets := new } :: after) find)) ∧
    (∀ (tree : FileTree) place old new path, tree.WellFormed →
      tree.get? place = some (.file old) →
      (ofDirectory settings (tree.set place (.file new)) path find =
          ofDirectory settings tree path find ∧
        ∀ file ∈ SourceFile.ofDirectory tree path, ¬file.StandsAt tree path place) ∨
        ∃ file ∈ SourceFile.ofDirectory tree path, file.StandsAt tree path place ∧
          DifferIn settings find file (.ok new.octets) (ofDirectory settings tree path find)
            (ofDirectory settings (tree.set place (.file new)) path find)) ∧
    ∀ before after m octets,
      (ofMember? m = none →
        ofMembers settings (before ++ { m with octets := octets } :: after) find =
          ofMembers settings (before ++ m :: after) find) ∧
      ∀ file, ofMember? m = some file → DifferIn settings find file (.ok octets)
        (ofMembers settings (before ++ m :: after) find)
        (ofMembers settings (before ++ { m with octets := octets } :: after) find) := by
  refine ⟨collects_ofFiles settings find, ?_, ?_, ?_, differIn_ofFiles settings find, ?_, ?_⟩
  · exact fun tree path => collects_ofFiles settings find (SourceFile.ofDirectory tree path)
  · exact fun members => collects_ofFiles settings find (members.filterMap ofMember?)
  · intro file octets before bad after earlier error hread hsource hbefore hbad
    have hfails : file.Fails find settings.minParams (.undecodable error) :=
      .undecodable hread (extract_eq_error hsource hbefore hbad)
    exact ⟨hfails, methods_ofFiles_of_fails hfails⟩
  · intro tree place old new path htree hold
    exact differIn_ofDirectory settings find htree hold new path
  · intro before after m octets
    refine ⟨fun hnone => ?_, fun file hfile => ?_⟩
    · exact ofMembers_octets_of_none settings find before after hnone octets
    · exact differIn_ofMembers settings find before after hfile octets

/-- The source of an interface of one method. -/
def getterOctets : List UInt8 :=
  Text.encode "type Getter interface \x7b\n\tGet(key string) int\n\x7d\n".toList

/-- The source of two interfaces, with an octet in the second that is no text. -/
def brokenOctets : List UInt8 :=
  Text.encode "type Putter interface \x7b Put(key string) int \x7d\n".toList ++
    (Text.encode "type Taker interface \x7b Take(/*".toList ++
      (0xFF :: Text.encode "*/ key int) int \x7d\n".toList))

/-- The first interface of the broken source. -/
def putter : Go.Interface :=
  ⟨Text.encode "Putter".toList, [Text.encode "Put(key string) int".toList]⟩

/-- The second interface of the broken source. -/
def taker : Go.Interface :=
  ⟨Text.encode "Taker".toList,
    [Text.encode "Take(/*".toList ++ (0xFF :: Text.encode "*/ key int) int".toList)]⟩

/-- A sound and a broken source file. -/
def mixedTree : FileTree where
  entries := [(["go"], .directory), (["go", "src"], .directory),
    (["go", "src", "b.go"], .file (.plain brokenOctets)),
    (["go", "src", "a.go"], .file (.plain getterOctets))]
  current := []

/-- A file that is no text costs the methods of that file and no others. -/
theorem gathers_file_by_file_mixedTree :
    Go.Interface.ofSource brokenOctets = [putter] ++ taker :: [] ∧
      SourceFile.Fails Go.Interface.ofSource 1 ⟨"b.go", ["b.go"], .ok brokenOctets⟩
        (.undecodable ⟨7, [0xFF], .startByte⟩) ∧
      mixedTree.WellFormed ∧
      (∃ file ∈ SourceFile.ofDirectory mixedTree ⟨"", ["go"]⟩,
        file.StandsAt mixedTree ⟨"", ["go"]⟩ ["go", "src", "b.go"] ∧
        DifferIn {} Go.Interface.ofSource file (.ok getterOctets)
          (ofDirectory {} mixedTree ⟨"", ["go"]⟩)
          (ofDirectory {} (mixedTree.set ["go", "src", "b.go"] (.file (.plain getterOctets)))
            ⟨"", ["go"]⟩)) ∧
      DifferIn {} Go.Interface.ofSource ⟨"go/src/b.go", ["b.go"], .ok brokenOctets⟩
        (.ok getterOctets)
        (ofMembers {} [⟨"go/src/b.go", true, brokenOctets⟩])
        (ofMembers {} [⟨"go/src/b.go", true, getterOctets⟩]) ∧
      ofMembers {} [⟨"go/b.go", true, getterOctets⟩] =
        ofMembers {} [⟨"go/b.go", true, brokenOctets⟩] := by
  obtain ⟨-, -, -, hbroken, -, hdirectory, hmembers⟩ :=
    gathers_file_by_file {} Go.Interface.ofSource
  have hsource : Go.Interface.ofSource brokenOctets = [putter] ++ taker :: [] := by
    decide +kernel
  have hputter : ∃ earlier, [putter].mapM (Go.Interface.readMethods "" 1) = .ok earlier :=
    ⟨_, rfl⟩
  obtain ⟨earlier, hearlier⟩ := hputter
  have htaker : Go.Interface.readMethods "" 1 taker = .error ⟨7, [0xFF], .startByte⟩ := by
    decide +kernel
  have hformed : mixedTree.WellFormed := ⟨by decide, by decide⟩
  refine ⟨hsource, ?_, hformed, ?_, ?_, ?_⟩
  · exact (hbroken ⟨"b.go", ["b.go"], .ok brokenOctets⟩ brokenOctets [putter] taker [] earlier _
      rfl hsource hearlier htaker).1
  · rcases hdirectory mixedTree ["go", "src", "b.go"] (.plain brokenOctets) (.plain getterOctets)
      ⟨"", ["go"]⟩ hformed rfl with ⟨-, hnone⟩ | hdiffer
    · have hoffered : ∃ file ∈ SourceFile.ofDirectory mixedTree ⟨"", ["go"]⟩,
          file.StandsAt mixedTree ⟨"", ["go"]⟩ ["go", "src", "b.go"] := by
        have hroot : mixedTree.placeOf (rootOf mixedTree ⟨"", ["go"]⟩) = .ok ["go", "src"] := rfl
        have hfound : (["b.go"], .file (.plain brokenOctets)) ∈
            mixedTree.sources (rootOf mixedTree ⟨"", ["go"]⟩) := by
          rw [FileTree.sources_eq_filter hroot rfl, List.mem_filter, hformed.mem_walk_iff]
          exact ⟨⟨List.cons_ne_nil _ _, rfl⟩, by decide⟩
        exact ⟨_, List.mem_map_of_mem hfound, _, hroot, rfl⟩
      obtain ⟨file, hfile, hplace⟩ := hoffered
      exact absurd hplace (hnone file hfile)
    · exact hdiffer
  · exact (hmembers [] [] ⟨"go/src/b.go", true, brokenOctets⟩ getterOctets).2 _ rfl
  · exact (hmembers [] [] ⟨"go/b.go", true, brokenOctets⟩ getterOctets).1 rfl

end Harvest

end NearMiss
