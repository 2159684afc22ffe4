import NearMiss.FileTree.Basic
import Mathlib.Data.List.Basic

/-!
# Writing a file and reading it

What is written to a path is read from that path. A file takes the place of nothing or of another
file, so every directory on the way to it is still there, and the path leads where it led before.
The directories that lead to a new file can be made unless a file is in their way.
-/

namespace NearMiss.FileTree

/-! ## Single places -/

/-- What is set is found at its place, and all else where it was. -/
theorem lookup_setEntry (place other : Place) (node : Node) (entries : List (Place × Node)) :
    (setEntry place node entries).lookup other =
      if other = place then some node else entries.lookup other := by
  have hcons (p : Place) (n : Node) (later : List (Place × Node)) :
      ((p, n) :: later).lookup other = if other = p then some n else later.lookup other := by
    by_cases hp : other = p
    · rw [List.lookup_cons, beq_iff_eq.mpr hp, if_pos hp]
    · rw [List.lookup_cons, beq_eq_false_iff_ne.mpr hp, if_neg hp]
  induction entries with
  | nil => rw [setEntry, hcons]
  | cons entry later ih =>
    obtain ⟨p, n⟩ := entry
    rw [setEntry]
    by_cases hp : p = place
    · rw [if_pos hp, hcons, hcons, hp]
      split <;> rfl
    · rw [if_neg hp, hcons, hcons, ih]
      by_cases hother : other = p
      · rw [if_pos hother, if_pos hother, if_neg (hother ▸ hp)]
      · rw [if_neg hother, if_neg hother]

/-- A node that is set is found at its place, and all else is as it was. -/
theorem get?_set (tree : FileTree) {place : Place} (hplace : place ≠ []) (node : Node)
    (other : Place) :
    (tree.set place node).get? other = if other = place then some node else tree.get? other := by
  cases other with
  | nil => rw [if_neg (Ne.symm hplace)]; rfl
  | cons name names => exact lookup_setEntry place (name :: names) node tree.entries

/-- Only the top of a tree has no name. -/
theorem ne_nil_of_get?_ne {tree : FileTree} {place : Place}
    (h : tree.get? place ≠ some .directory) : place ≠ [] := by
  rintro rfl
  exact h rfl

/-! ## Following names -/

/-- Names are followed from a directory, if they are not too long. -/
theorem follow_cons_eq_ok_iff {tree : FileTree} {place found : Place} {name : String}
    {later : List String} :
    tree.follow place (name :: later) = .ok found ↔
      tree.get? place = some .directory ∧ name.utf8ByteSize ≤ maxName ∧
        tree.follow (step place name) later = .ok found := by
  rw [follow]
  split
  · next hnone => simp [hnone]
  · next hfile => simp [hfile]
  · next hdirectory =>
    split
    · next hlong => simp [Nat.not_le.mpr hlong]
    · next hshort => simp [hdirectory, Nat.not_lt.mp hshort]

/-- Names are followed one after the other. -/
theorem follow_append_eq_ok_iff {tree : FileTree} {place found : Place}
    {names later : List String} :
    tree.follow place (names ++ later) = .ok found ↔
      ∃ middle, tree.follow place names = .ok middle ∧ tree.follow middle later = .ok found := by
  induction names generalizing place with
  | nil => simp [follow]
  | cons name names ih =>
    simp only [List.cons_append, follow_cons_eq_ok_iff, ih]
    grind

/-- A new node where no directory was does not change where names lead. -/
theorem follow_set {tree : FileTree} {place start found : Place} {names : List String}
    (hplace : tree.get? place ≠ some .directory) (node : Node)
    (h : tree.follow start names = .ok found) :
    (tree.set place node).follow start names = .ok found := by
  induction names generalizing start with
  | nil => exact h
  | cons name later ih =>
    obtain ⟨hstart, hname, hlater⟩ := follow_cons_eq_ok_iff.mp h
    -- A step starts from a directory, so the new node is not where it starts.
    have hne : start ≠ place := by
      rintro rfl
      exact hplace hstart
    refine follow_cons_eq_ok_iff.mpr ⟨?_, hname, ih hlater⟩
    rw [get?_set tree (ne_nil_of_get?_ne hplace), if_neg hne, hstart]

/-- A path leads to a place if it is one and its names can be followed. -/
theorem placeOf_eq_ok_iff {tree : FileTree} {path : Path} {place : Place} :
    tree.placeOf path = .ok place ↔
      checkPath path = .ok () ∧ tree.follow (tree.start path) path.names = .ok place := by
  rw [placeOf]
  cases checkPath path with
  | error cause => simp [bind, Except.bind]
  | ok checked => simp [bind, Except.bind]

/-! ## Writing -/

/-- Octets are written where no directory is. -/
theorem write_eq_ok_iff {tree tree' : FileTree} {path : Path} {octets : List UInt8} :
    tree.write path octets = .ok tree' ↔
      ∃ place, tree.placeOf path = .ok place ∧ tree.get? place ≠ some .directory ∧
        tree' = tree.set place (.file (.plain octets)) := by
  rw [write]
  cases tree.placeOf path with
  | error cause => simp
  | ok place =>
    by_cases hdirectory : tree.get? place = some .directory
    · simp [hdirectory]
    · simp [hdirectory, @eq_comm _ tree']

/-- What is written to a path is read from it. -/
theorem read_write {tree tree' : FileTree} {path : Path} {octets : List UInt8}
    (h : tree.write path octets = .ok tree') : tree'.read path = .ok octets := by
  obtain ⟨place, hplace, hfree, rfl⟩ := write_eq_ok_iff.mp h
  obtain ⟨hcheck, hfollow⟩ := placeOf_eq_ok_iff.mp hplace
  have hagain : (tree.set place (.file (.plain octets))).placeOf path = .ok place :=
    placeOf_eq_ok_iff.mpr ⟨hcheck, follow_set hfree _ hfollow⟩
  have hfile : (tree.set place (.file (.plain octets))).get? place =
      some (.file (.plain octets)) := by
    rw [get?_set tree (ne_nil_of_get?_ne hfree), if_pos rfl]
  simp only [read, content, find, hagain, hfile]
  rfl

/-! ## Making directories -/

/-- The places that names lead to from a place, one after the other. -/
def passed : Place → List String → List Place
  | _, [] => []
  | place, name :: later => step place name :: passed (step place name) later

/-- Names lead through directories. -/
theorem follow_of_passed {tree : FileTree} {place : Place} {names : List String}
    (hplace : tree.get? place = some .directory)
    (hnames : ∀ name ∈ names, name.utf8ByteSize ≤ maxName)
    (hpassed : ∀ p ∈ passed place names, tree.get? p = some .directory) :
    tree.follow place names = .ok (names.foldl step place) ∧
      tree.get? (names.foldl step place) = some .directory := by
  induction names generalizing place with
  | nil => exact ⟨rfl, hplace⟩
  | cons name later ih =>
    obtain ⟨hname, hlaterNames⟩ := List.forall_mem_cons.mp hnames
    obtain ⟨hnext, hlater⟩ := List.forall_mem_cons.mp hpassed
    obtain ⟨hfollow, hfound⟩ := ih hnext hlaterNames hlater
    exact ⟨follow_cons_eq_ok_iff.mpr ⟨hplace, hname, hfollow⟩, hfound⟩

/-- The tree has become another one by directories at some of the given places. -/
structure Grows (tree grown : FileTree) (places : List Place) : Prop where
  /-- Relative paths start from the same place. -/
  current : grown.current = tree.current
  /-- No directory is lost. -/
  directories : ∀ p, tree.get? p = some .directory → grown.get? p = some .directory
  /-- All other places are as they were. -/
  others : ∀ p ∉ places, grown.get? p = tree.get? p

/-- Directories are made along names if nothing but directories is in the way. -/
theorem exists_makeDirectoriesFrom (path : Path) {tree : FileTree} {place : Place}
    {names : List String} (hnames : ∀ name ∈ names, name.utf8ByteSize ≤ maxName)
    (hway : ∀ p ∈ passed place names, ∀ node ∈ tree.get? p, node = .directory) :
    ∃ grown, makeDirectoriesFrom path tree place names = .ok grown ∧
      tree.Grows grown (passed place names) ∧
      ∀ p ∈ passed place names, grown.get? p = some .directory := by
  induction names generalizing tree place with
  | nil => exact ⟨tree, rfl, ⟨rfl, fun _ => id, fun _ _ => rfl⟩, by simp [passed]⟩
  | cons name later ih =>
    obtain ⟨hname, hnames⟩ := List.forall_mem_cons.mp hnames
    obtain ⟨hnext, hway⟩ := List.forall_mem_cons.mp hway
    cases hnode : tree.get? (step place name) with
    | some node =>
      obtain rfl := hnext node hnode
      obtain ⟨grown, hmake, hgrows, hmade⟩ := ih hnames hway
      refine ⟨grown, by simpa only [makeDirectoriesFrom, hnode] using hmake, ?_, ?_⟩
      · exact ⟨hgrows.current, hgrows.directories,
          fun p hp => hgrows.others p (List.not_mem_of_not_mem_cons hp)⟩
      · exact List.forall_mem_cons.mpr ⟨hgrows.directories _ hnode, hmade⟩
    | none =>
      have hfree : tree.get? (step place name) ≠ some .directory := by simp [hnode]
      have hset := tree.get?_set (ne_nil_of_get?_ne hfree) .directory
      -- The new directory is in nobody's way, also if the names lead past it again.
      have hwaySet : ∀ p ∈ passed (step place name) later,
          ∀ node ∈ (tree.set (step place name) .directory).get? p, node = .directory := by
        intro p hp node hmem
        rw [hset] at hmem
        split at hmem
        · exact (Option.some.inj hmem).symm
        · exact hway p hp node hmem
      obtain ⟨grown, hmake, hgrows, hmade⟩ := ih hnames hwaySet
      refine ⟨grown, ?_, ⟨hgrows.current, fun p hp => hgrows.directories p ?_, fun p hp => ?_⟩, ?_⟩
      · simpa only [makeDirectoriesFrom, hnode, if_neg (Nat.not_lt.mpr hname)] using hmake
      · rw [hset, hp, ite_self]
      · rw [hgrows.others p (List.not_mem_of_not_mem_cons hp), hset,
          if_neg (List.ne_of_not_mem_cons hp)]
      · refine List.forall_mem_cons.mpr ⟨hgrows.directories _ ?_, hmade⟩
        rw [hset, if_pos rfl]

/-- A file can be put at a path, with the directories that lead there: the file system takes the
path and all of its names, nothing but directories is on the way, and the place of the file is
neither on the way nor taken by a directory. -/
structure Writable (tree : FileTree) (path : Path) : Prop where
  /-- The file system takes the path. -/
  accepted : checkPath path = .ok ()
  /-- The file system takes the path of the directory. -/
  parent_accepted : checkPath path.parent = .ok ()
  /-- No name is too long. -/
  name_le : ∀ name ∈ path.names, name.utf8ByteSize ≤ maxName
  /-- The path starts from a directory. -/
  start_directory : tree.get? (tree.start path) = some .directory
  /-- Nothing but directories is on the way. -/
  way : ∀ p ∈ passed (tree.start path) path.parent.names, ∀ node ∈ tree.get? p, node = .directory
  /-- The way does not lead past the place of the file. -/
  apart : (tree.absolute path).names ∉ passed (tree.start path) path.parent.names
  /-- No directory is at the place of the file. -/
  free : tree.get? (tree.absolute path).names ≠ some .directory

/-- Octets can be written to such a path after the directories are made. -/
theorem Writable.exists_grown {tree : FileTree} {path : Path} (h : tree.Writable path)
    (octets : List UInt8) :
    ∃ grown, tree.makeDirectories path.parent = .ok grown ∧
      tree.Grows grown (passed (tree.start path) path.parent.names) ∧
      (∀ p ∈ passed (tree.start path) path.parent.names, grown.get? p = some .directory) ∧
      grown.write path octets =
        .ok (grown.set (tree.absolute path).names (.file (.plain octets))) := by
  have hparentNames : ∀ name ∈ path.parent.names, name.utf8ByteSize ≤ maxName :=
    fun name hname => h.name_le name (List.dropLast_subset _ hname)
  obtain ⟨grown, hmake, hgrows, hmade⟩ :=
    exists_makeDirectoriesFrom path.parent hparentNames h.way
  have hstart : grown.start path = tree.start path := by rw [start, start, hgrows.current]
  obtain ⟨hfollow, hdirectory⟩ :=
    follow_of_passed (hgrows.directories _ h.start_directory) hparentNames hmade
  rcases List.eq_nil_or_concat' path.names with hnil | ⟨names, name, hnames⟩
  · exact absurd (by simpa [absolute, hnil] using h.start_directory) h.free
  · have hparent : path.parent.names = names := by rw [Path.parent, hnames, List.dropLast_concat]
    have hplace : (tree.absolute path).names = step (names.foldl step (tree.start path)) name := by
      rw [absolute, hnames, List.foldl_concat]
    rw [hparent] at hfollow hdirectory
    have hfound : grown.placeOf path = .ok (tree.absolute path).names := by
      rw [placeOf_eq_ok_iff, hstart, hnames, follow_append_eq_ok_iff, hplace]
      have hname := h.name_le name (by simp [hnames])
      exact ⟨h.accepted, _, hfollow, follow_cons_eq_ok_iff.mpr ⟨hdirectory, hname, rfl⟩⟩
    have hfree : grown.get? (tree.absolute path).names ≠ some .directory := by
      rw [hgrows.others _ h.apart]
      exact h.free
    refine ⟨grown, ?_, hgrows, hmade, write_eq_ok_iff.mpr ⟨_, hfound, hfree, rfl⟩⟩
    rw [makeDirectories, h.parent_accepted]
    exact hmake

/-- Where a file can be written, its directories can be made and it can be written. -/
theorem Writable.exists_write {tree : FileTree} {path : Path} (h : tree.Writable path)
    (octets : List UInt8) :
    ∃ grown tree', tree.makeDirectories path.parent = .ok grown ∧
      grown.write path octets = .ok tree' := by
  obtain ⟨grown, hmake, -, -, hwrite⟩ := h.exists_grown octets
  exact ⟨grown, _, hmake, hwrite⟩

end NearMiss.FileTree
