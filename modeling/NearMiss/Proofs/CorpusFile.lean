import NearMiss.Corpus
import NearMiss.Proofs.FileTree
import NearMiss.Proofs.Lines
import NearMiss.Proofs.Records
import NearMiss.Proofs.Utf8

/-!
# Corpus files

A corpus is read back from its text and from its file, whatever characters its records hold. Its
text has no carriage return, because the only ones stand inside strings and are written as escapes
there, so the line ends that are normalised when the file is read are none of its own.
-/

namespace NearMiss.Corpus

/-- The JSON value of a corpus can be parsed when it is printed. -/
theorem toJson_plain (corpus : Corpus) : corpus.toJson.Plain :=
  Json.Plain.arr_map fun entry _ => entry.toJson_plain .camel

/-- A corpus is read from its JSON value. -/
theorem ofJson_toJson (corpus : Corpus) : ofJson corpus.toJson = .ok corpus :=
  Schema.items_map (fun entry _ => entry.ofJson_toJson .camel) 0

/-- A corpus is read from its text. -/
theorem ofText_toText (corpus : Corpus) : ofText corpus.toText = .ok corpus := by
  simp only [ofText, toText, corpus.toJson_plain.parse_pretty, ofJson_toJson]

/-- No carriage return is written. -/
theorem not_mem_toText (corpus : Corpus) : '\r' ∉ corpus.toText.toList := by
  rw [toText, Json.pretty, String.toList_ofList]
  exact corpus.toJson_plain.not_mem_render 0

/-- Normalising line ends leaves the text of a corpus alone. -/
theorem ofOctets_toOctets (corpus : Corpus) : ofOctets corpus.toOctets = .ok corpus := by
  simp only [ofOctets, toOctets, Text.decode_encode,
    Text.normalizeNewlines_eq_self corpus.not_mem_toText, String.ofList_toList, ofText_toText]

/-- What is stored is loaded again. -/
theorem load_store {tree tree' : FileTree} {path : Path} {corpus : Corpus}
    (h : store tree path corpus = .ok tree') : load tree' path = .ok corpus := by
  rw [store] at h
  cases hgrown : tree.makeDirectories path.parent with
  | error error => simp [hgrown, bind, Except.bind] at h
  | ok grown =>
    have hwrite : grown.write path corpus.toOctets = .ok tree' := by
      simpa [hgrown, bind, Except.bind] using h
    simp only [load, FileTree.read_write hwrite, ofOctets_toOctets]

/-- A corpus can be stored where a file can be written. -/
theorem exists_store {tree : FileTree} {path : Path} (h : tree.Writable path) (corpus : Corpus) :
    ∃ tree', store tree path corpus = .ok tree' := by
  obtain ⟨grown, tree', hgrown, hwrite⟩ := h.exists_write corpus.toOctets
  refine ⟨tree', ?_⟩
  rw [store, hgrown]
  exact hwrite

/-- A corpus is read back from its text, which holds no carriage return, and from every file that it
is stored in. It can be stored at every path where a file can be put. -/
theorem reads_back (corpus : Corpus) :
    ofText corpus.toText = .ok corpus ∧
      '\r' ∉ corpus.toText.toList ∧
      (∀ tree tree' path, store tree path corpus = .ok tree' → load tree' path = .ok corpus) ∧
      ∀ tree path, FileTree.Writable tree path → ∃ tree', store tree path corpus = .ok tree' :=
  ⟨ofText_toText corpus, not_mem_toText corpus, fun _ _ _ => load_store,
    fun _ _ hwritable => exists_store hwritable corpus⟩

/-- Line ends of all kinds, quotes, escapes, control characters and a byte order mark in the fields
of a record. -/
def awkwardCorpus : Corpus :=
  [{ signature := "Read(p \r\n \"\\\" []byte)"
     name := "Re\rad\u0085"
     params := [⟨some "\x00\x1f\x7f", "\u2028\u2029", true, false⟩, ⟨none, "", false, true⟩]
     returns := [⟨some "\ufeff", "\\u000d\\", false, false⟩]
     interface := "\n\r"
     package := "\ufeff\t😀" }]

/-- A directory with nothing in it, seen from inside. -/
def workTree : FileTree :=
  ⟨[(["work"], .directory)], ["work"]⟩

/-- A path into a directory that is still to be made. -/
def outPath : Path :=
  ⟨"", ["out", "corpus.json"]⟩

/-- The output can be written. -/
theorem workTree_writable : workTree.Writable outPath where
  accepted := by decide +kernel
  parent_accepted := by decide +kernel
  name_le := by decide +kernel
  start_directory := by decide
  way := by decide
  apart := by decide
  free := by decide

/-- Awkward texts are read back and can be stored. -/
theorem reads_back_awkwardCorpus :
    ofText awkwardCorpus.toText = .ok awkwardCorpus ∧ '\r' ∉ awkwardCorpus.toText.toList ∧
      workTree.Writable outPath ∧
      ∃ tree', store workTree outPath awkwardCorpus = .ok tree' ∧
        load tree' outPath = .ok awkwardCorpus := by
  obtain ⟨htext, hreturn, hload, hstore⟩ := reads_back awkwardCorpus
  obtain ⟨tree', htree⟩ := hstore workTree outPath workTree_writable
  exact ⟨htext, hreturn, workTree_writable, tree', htree, hload workTree tree' outPath htree⟩

end NearMiss.Corpus
