import NearMiss.Proofs.CorpusFile
import NearMiss.Proofs.Extraction
import NearMiss.Proofs.Harvest
import NearMiss.Proofs.Rename

/-!
# Where the records of a corpus come from

Every record of a harvest was read in a source file. Its signature stands there and is read as the
record says, by the reader that also takes the lines of a document apart. Its package is the
directory of the file below the source directory, whichever way the file was had. A corpus file
keeps all of this, because the records that are loaded are those that were stored.
-/

namespace NearMiss

open Text

/-- A record that was read in a source file, to which the given names lead from the source
directory. -/
structure InterfaceMethod.ReadIn (minParams : Nat) (names : List String) (source : List UInt8)
    (r : InterfaceMethod) : Prop where
  /-- Its signature is read as the record says. -/
  parse_eq : Method.parse r.signature = r.toMethod
  /-- No blank stands at either end of its signature. -/
  trimmed : Trimmed r.signature.toList
  /-- It has a name. -/
  name_ne_empty : r.name ≠ ""
  /-- It has as many parameters as were asked for, and at least one. -/
  enough : max minParams 1 ≤ r.params.length
  /-- Its interface has an exported name. -/
  exported : ∃ c ∈ r.interface.toList.head?, Declaration.isExported c = true
  /-- Its package is the directory of the file. -/
  package_eq : r.package = "/".intercalate names.dropLast
  /-- The name of its interface stands in the file. -/
  interface_stands : ∃ octets, octets <:+: source ∧ decode octets = .ok r.interface.toList
  /-- Its signature stands in the file, perhaps between blanks. -/
  signature_stands : ∃ octets text, octets <:+: source ∧ decode octets = .ok text ∧
    r.signature.toList = trim text

/-! ## Records of a file -/

/-- A record of an interface that stands in a file was read in that file. -/
theorem Go.Interface.Records.readIn {minParams : Nat} {names : List String}
    {declared : Go.Interface} {r : InterfaceMethod} {source : List UInt8}
    (h : declared.Records ("/".intercalate names.dropLast) minParams r)
    (hwithin : declared.Within source) : r.ReadIn minParams names source := by
  obtain ⟨octets, hoctets, text, htext, hr⟩ := h.signature
  have hsignature : r.signature = String.ofList (trim text) := by
    rw [hr]
    exact Method.signature_parse _
  have hmethod : r.toMethod = Method.parse (String.ofList (trim text)) := by
    rw [hr]
    rfl
  obtain ⟨hname, henough⟩ := Method.isCandidate_iff.mp h.worth
  refine ⟨?_, ?_, hname, ?_, ?_, ?_, ?_, ?_⟩
  · rw [hsignature, hmethod]
  · rw [hsignature, String.toList_ofList]
    exact trimmed_trim text
  · omega
  · simpa [isExportedName, Option.any_eq_true] using h.exported
  · rw [hr]
    rfl
  · exact ⟨declared.name, hwithin.name, h.interface⟩
  · refine ⟨octets, text, hwithin.methods octets hoctets, htext, ?_⟩
    rw [hsignature, String.toList_ofList]

/-- Whatever interfaces are found in a file, as long as they stand there, their methods are read in
that file. -/
theorem readIn_of_mem_readMethods {minParams : Nat} {names : List String} {source : List UInt8}
    {found : List Go.Interface} (hfound : ∀ declared ∈ found, declared.Within source)
    {parts : List (List InterfaceMethod)}
    (hparts : found.mapM (Go.Interface.readMethods ("/".intercalate names.dropLast) minParams) =
      .ok parts) {r : InterfaceMethod} (hr : r ∈ parts.flatten) :
    r.ReadIn minParams names source := by
  obtain ⟨declared, hdeclared, hrecord⟩ := Go.Interface.exists_records_of_mem_parts hparts hr
  exact hrecord.readIn (hfound declared hdeclared)

/-- The methods that a source file yields are read in it. -/
theorem SourceFile.Yields.readIn {minParams : Nat} {file : SourceFile}
    {methods : List InterfaceMethod} (h : file.Yields Go.Interface.ofSource minParams methods)
    {r : InterfaceMethod} (hr : r ∈ methods) :
    ∃ source, file.octets = .ok source ∧ r.ReadIn minParams file.names source := by
  obtain ⟨source, hsource, hextract⟩ := h
  obtain ⟨declared, hdeclared, hrecord⟩ := Go.Interface.exists_records_of_mem_extract hextract hr
  exact ⟨source, hsource, hrecord.readIn (Go.Interface.within_of_mem_ofSource hdeclared)⟩

/-! ## Directories and archives -/

/-- What is listed below a path is listed in the tree, at the end of the names that lead there. -/
theorem FileTree.mem_entries_of_mem_sources {tree : FileTree} {path : Path}
    {found : List String × Node} (h : found ∈ tree.sources path) :
    ∃ base, tree.placeOf path = .ok base ∧ (base ++ found.1, found.2) ∈ tree.entries := by
  by_cases hbase : ∃ base, tree.placeOf path = .ok base ∧ tree.get? base = some .directory
  · obtain ⟨base, hpath, hdirectory⟩ := hbase
    rw [sources_eq_filter hpath hdirectory, List.mem_filter, mem_walk_iff] at h
    exact ⟨base, hpath, h.1.2⟩
  · rw [sources_eq_nil fun base hpath hdirectory => hbase ⟨base, hpath, hdirectory⟩] at h
    simp at h

/-- A record that was read in an accepted file of the tree, below the source directory of a path. -/
def InterfaceMethod.InDirectory (settings : Settings) (tree : FileTree) (path : Path)
    (r : InterfaceMethod) : Prop :=
  ∃ base names content, tree.placeOf (SourceFile.rootOf tree path) = .ok base ∧
    (base ++ names, Node.file content) ∈ tree.entries ∧
    SourceFile.isAccepted settings.excludedDirs names = true ∧
    r.ReadIn settings.minParams names content.octets

/-- A record that was read in an accepted member of an archive, below the `src` directory of what
was packed. -/
def InterfaceMethod.InMembers (settings : Settings) (members : List Member)
    (r : InterfaceMethod) : Prop :=
  ∃ m ∈ members, ∃ top names, m.isRegular = true ∧
    splitString '/' m.name = top :: "src" :: names ∧
    SourceFile.isAccepted settings.excludedDirs names = true ∧
    r.ReadIn settings.minParams names m.octets

namespace Harvest

open SourceFile

variable {settings : Settings}

/-- A method of a directory is read in one of its files. -/
theorem inDirectory_of_mem_ofDirectory {tree : FileTree} {path : Path} {r : InterfaceMethod}
    (hr : r ∈ (ofDirectory settings tree path).methods) : r.InDirectory settings tree path := by
  obtain ⟨file, hfile, haccepted, methods, hyields, hr⟩ := exists_yields_of_mem_ofFiles hr
  obtain ⟨source, hsource, hread⟩ := hyields.readIn hr
  obtain ⟨⟨names, node⟩, hfound, rfl⟩ := List.mem_map.mp hfile
  obtain ⟨base, hbase, hentry⟩ := FileTree.mem_entries_of_mem_sources hfound
  cases node with
  | directory => simp [ofFound] at hsource
  | file content =>
    obtain rfl : content.octets = source := Except.ok.inj hsource
    exact ⟨base, names, content, hbase, hentry, haccepted, hread⟩

/-- A method of an archive is read in one of its members. -/
theorem inMembers_of_mem_ofMembers {members : List Member} {r : InterfaceMethod}
    (hr : r ∈ (ofMembers settings members).methods) : r.InMembers settings members := by
  obtain ⟨file, hfile, haccepted, methods, hyields, hr⟩ := exists_yields_of_mem_ofFiles hr
  obtain ⟨source, hsource, hread⟩ := hyields.readIn hr
  obtain ⟨m, hm, hmember⟩ := List.mem_filterMap.mp hfile
  obtain ⟨hregular, htail, -, -, hoctets⟩ := ofMember?_eq_some_iff.mp hmember
  obtain rfl : m.octets = source := Except.ok.inj (hoctets.symm.trans hsource)
  cases hname : splitString '/' m.name with
  | nil => simp [hname] at htail
  | cons top below =>
    obtain rfl : below = "src" :: file.names := by simpa [hname] using htail
    exact ⟨m, hm, top, file.names, hregular, hname, haccepted, hread⟩

/-- Only an archive that can be read to its end gives a harvest. -/
theorem exists_members_of_ofArchive {tree : FileTree} {path : Path} {harvest : Harvest}
    (h : ofArchive settings tree path = .ok harvest) :
    ∃ members, tree.content path = .ok (.archive members) ∧
      harvest = ofMembers settings members := by
  rw [ofArchive] at h
  split at h
  · simp at h
  · simp at h
  · simp at h
  · next members hcontent => exact ⟨members, hcontent, (Except.ok.inj h).symm⟩

/-- Only an answer with an archive that can be read to its end gives a harvest. -/
theorem exists_members_of_ofResponse {request : Request} {response : Response}
    {harvest : Harvest} (h : ofResponse settings request response = .ok harvest) :
    ∃ status reason members, response = .answered status reason (.archive members) ∧
      harvest = ofMembers settings members := by
  cases response with
  | failed reason => simp [ofResponse] at h
  | aborted reason => simp [ofResponse] at h
  | answered status reason body =>
    simp only [ofResponse] at h
    split at h
    · simp at h
    · cases body with
      | plain octets => simp at h
      | damaged damage => simp at h
      | archive members => exact ⟨status, reason, members, rfl, (Except.ok.inj h).symm⟩

end Harvest

/-! ## Corpus files -/

/-- All records of a corpus are as given, and so are those that are loaded from a file in which the
corpus was stored. -/
structure Corpus.Lasting (p : InterfaceMethod → Prop) (corpus : Corpus) : Prop where
  /-- The records are as given. -/
  records : ∀ r ∈ corpus, p r
  /-- The corpus can be stored wherever a file can be put. -/
  storable : ∀ tree path, FileTree.Writable tree path → ∃ tree', store tree path corpus = .ok tree'
  /-- The corpus is loaded where it was stored, with records that are as given. -/
  loaded : ∀ tree path tree', store tree path corpus = .ok tree' →
    ∃ found, load tree' path = .ok found ∧ ∀ r ∈ found, p r

/-- What holds of all entries holds of a corpus that is stored and loaded. -/
theorem Corpus.lasting_of_forall {p : InterfaceMethod → Prop} {corpus : Corpus}
    (h : ∀ r ∈ corpus, p r) : corpus.Lasting p where
  records := h
  storable _ _ hwritable := exists_store hwritable corpus
  loaded _ _ _ hstore := ⟨corpus, load_store hstore, h⟩

/-- Every record of a harvest is what the reader of declarations makes of a text in a source file,
in the package that the place of the file tells. So it is for a directory, for the archive in a file
and for one that was fetched, and so it still is after the records were stored and loaded. It does
not depend on how interfaces are found in a file, as long as they stand there. -/
theorem Harvest.records_as_parsed (settings : Settings) :
    (∀ names source (found : List Go.Interface) parts,
      (∀ declared ∈ found, declared.Within source) →
      found.mapM (Go.Interface.readMethods ("/".intercalate names.dropLast) settings.minParams) =
        .ok parts → ∀ r ∈ parts.flatten, r.ReadIn settings.minParams names source) ∧
    (∀ tree path, Corpus.Lasting (InterfaceMethod.InDirectory settings tree path)
      (ofDirectory settings tree path).methods) ∧
    (∀ tree path harvest, ofArchive settings tree path = .ok harvest →
      ∃ members, tree.content path = .ok (.archive members) ∧
        Corpus.Lasting (InterfaceMethod.InMembers settings members) harvest.methods) ∧
    ∀ request response harvest, ofResponse settings request response = .ok harvest →
      ∃ status reason members, response = .answered status reason (.archive members) ∧
        Corpus.Lasting (InterfaceMethod.InMembers settings members) harvest.methods := by
  refine ⟨?_, ?_, ?_, ?_⟩
  · intro names source found parts hfound hparts r hr
    exact readIn_of_mem_readMethods hfound hparts hr
  · intro tree path
    exact Corpus.lasting_of_forall fun r hr => inDirectory_of_mem_ofDirectory hr
  · intro tree path harvest hharvest
    obtain ⟨members, hcontent, rfl⟩ := exists_members_of_ofArchive hharvest
    refine ⟨members, hcontent, ?_⟩
    exact Corpus.lasting_of_forall fun r hr => inMembers_of_mem_ofMembers hr
  · intro request response harvest hharvest
    obtain ⟨status, reason, members, hresponse, rfl⟩ := exists_members_of_ofResponse hharvest
    refine ⟨status, reason, members, hresponse, ?_⟩
    exact Corpus.lasting_of_forall fun r hr => inMembers_of_mem_ofMembers hr

namespace Harvest

/-- An archive with a source file two directories below `src`, and a document that is no source. -/
def getterMembers : List Member :=
  [⟨"go/src/io/fs/get.go", true, getterOctets⟩, ⟨"go/src/io/fs/README", true, [0xFF]⟩]

/-- A file tree with that archive. -/
def getterTree : FileTree :=
  ⟨[(["go.tgz"], .file (.archive getterMembers))], []⟩

/-- The interface in the source file. -/
def getter : Go.Interface :=
  ⟨encode "Getter".toList, [encode "Get(key string) int".toList]⟩

/-- The record of its method. -/
def getterRecord : InterfaceMethod :=
  InterfaceMethod.ofSignature "io/fs" "Getter" "Get(key string) int"

/-- A method of an archive is read as its signature says, and is stored as it is. -/
theorem records_as_parsed_getter :
    getter.Within getterOctets ∧
      [getter].mapM (Go.Interface.readMethods "io/fs" 1) = .ok [[getterRecord]] ∧
      getterRecord.ReadIn 1 ["io", "fs", "get.go"] getterOctets ∧
      ∃ harvest, ofArchive {} getterTree ⟨"", ["go.tgz"]⟩ = .ok harvest ∧
        harvest.methods = [getterRecord] ∧ getterRecord.InMembers {} getterMembers ∧
        Corpus.workTree.Writable Corpus.outPath ∧
        ∃ tree' found, Corpus.store Corpus.workTree Corpus.outPath harvest.methods = .ok tree' ∧
          Corpus.load tree' Corpus.outPath = .ok found ∧
          ∀ r ∈ found, r.InMembers {} getterMembers := by
  obtain ⟨hfound, -, harchive, -⟩ := records_as_parsed {}
  have hwithin : getter.Within getterOctets :=
    Go.Interface.within_of_mem_ofSource (by decide +kernel)
  have hparts : [getter].mapM (Go.Interface.readMethods "io/fs" 1) = .ok [[getterRecord]] := by
    decide +kernel
  have hread : getterRecord.ReadIn 1 ["io", "fs", "get.go"] getterOctets := by
    refine hfound ["io", "fs", "get.go"] getterOctets [getter] [[getterRecord]] ?_ hparts
      getterRecord (by simp)
    exact fun declared hdeclared => List.mem_singleton.mp hdeclared ▸ hwithin
  have hmethods : (ofMembers {} getterMembers).methods = [getterRecord] := by decide +kernel
  obtain ⟨members, hcontent, hlasting⟩ := harchive getterTree ⟨"", ["go.tgz"]⟩ _ rfl
  obtain rfl : getterMembers = members := by
    have hcontent' : getterTree.content ⟨"", ["go.tgz"]⟩ = .ok (.archive getterMembers) := rfl
    simpa [hcontent'] using hcontent
  obtain ⟨tree', hstore⟩ := hlasting.storable _ _ Corpus.workTree_writable
  obtain ⟨found, hload, hrecords⟩ := hlasting.loaded _ _ _ hstore
  refine ⟨hwithin, hparts, hread, _, rfl, hmethods, ?_, Corpus.workTree_writable, tree', found,
    hstore, hload, hrecords⟩
  exact hlasting.records getterRecord (by rw [hmethods]; simp)

end Harvest

end NearMiss
