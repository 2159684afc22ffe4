import NearMiss.FileTree.Walk
import NearMiss.Proofs.FileTree
import Mathlib.Data.List.Nodup

/-!
# What a walk hands out

A walk lists what a file tree holds below a place, strictly in the order of the names that lead
there. As a list in strict order is settled by its members, a walk is the only such list of what
stands below the place.
-/

namespace NearMiss.FileTree

/-! ## The order of places -/

/-- Places are compared name by name, and a place comes before all that lies below it. -/
theorem inOrder_iff_not_lt {a b : List String} : inOrder a b = true ↔ ¬b < a := by
  induction a generalizing b with
  | nil => simp [inOrder]
  | cons x a ih =>
    cases b with
    | nil => simp [inOrder]
    | cons y b =>
      rw [inOrder, List.cons_lt_cons_iff]
      by_cases hxy : x = y
      · rw [if_pos hxy, ih, hxy]
        simp only [String.lt_irrefl, true_and, false_or]
      · rw [if_neg hxy, decide_eq_true_eq]
        have hlt : ¬y < x ↔ x < y := by
          refine ⟨fun hle => ?_, String.lt_asymm⟩
          by_contra hge
          exact hxy (String.le_antisymm (String.not_lt.mp hle) (String.not_lt.mp hge))
        simp only [Ne.symm hxy, hlt, false_and, or_false]

/-- The order of names is transitive. -/
theorem inOrder_trans {a b c : List String} (hab : inOrder a b = true) (hbc : inOrder b c = true) :
    inOrder a c = true := by
  rw [inOrder_iff_not_lt] at *
  exact List.le_trans hab hbc

/-- Any two lists of names are in order one way or the other. -/
theorem inOrder_total (a b : List String) : (inOrder a b || inOrder b a) = true := by
  rw [Bool.or_eq_true, inOrder_iff_not_lt, inOrder_iff_not_lt]
  exact List.le_total a b

/-- Different names in order are one below the other. -/
theorem lt_of_inOrder_of_ne {a b : List String} (h : inOrder a b = true) (hne : a ≠ b) : a < b := by
  by_contra hge
  exact hne (List.le_antisymm (inOrder_iff_not_lt.mp h) hge)

/-- Names below others are different from them. -/
theorem ne_of_names_lt {a b : List String} (h : a < b) : a ≠ b := by
  rintro rfl
  exact List.lt_irrefl _ h

/-- A list in strict order of places is settled by its members. -/
theorem eq_of_pairwise_lt_of_mem_iff {α : Type} {xs ys : List (List String × α)}
    (hxs : xs.Pairwise fun a b => a.1 < b.1) (hys : ys.Pairwise fun a b => a.1 < b.1)
    (hmem : ∀ x, x ∈ xs ↔ x ∈ ys) : xs = ys := by
  have hnodup {zs : List (List String × α)} (hzs : zs.Pairwise fun a b => a.1 < b.1) :
      zs.Nodup := by
    exact hzs.imp fun hlt heq => ne_of_names_lt hlt (congrArg Prod.fst heq)
  have hperm : xs.Perm ys :=
    (List.perm_ext_iff_of_nodup (hnodup hxs) (hnodup hys)).mpr hmem
  refine hperm.eq_of_pairwise (fun a b _ _ hab hba => ?_) hxs hys
  exact absurd hba (List.lt_asymm hab)

/-! ## Trees of files -/

/-- A tree as a file system keeps it: one node at a place, and no slash in a name. -/
structure WellFormed (tree : FileTree) : Prop where
  /-- No place is listed twice. -/
  distinct : (tree.entries.map Prod.fst).Nodup
  /-- No name on the way to a place holds a slash. -/
  slashFree : ∀ entry ∈ tree.entries, ∀ name ∈ entry.1, '/' ∉ name.toList

variable {tree : FileTree}

/-- The entries of a well-formed tree are what is found at their places. -/
theorem WellFormed.mem_entries_iff (h : tree.WellFormed) {place : Place} (hplace : place ≠ [])
    {node : Node} : (place, node) ∈ tree.entries ↔ tree.get? place = some node := by
  have hget : tree.get? place = tree.entries.lookup place := by
    rw [get?, if_neg (by simpa using hplace)]
  rw [hget, List.lookup_eq_some_iff]
  constructor
  · intro hmem
    obtain ⟨before, after, hentries⟩ := List.append_of_mem hmem
    refine ⟨before, after, hentries, fun entry hentry => ?_⟩
    -- An entry before it for the same place would list that place twice.
    have hdistinct := h.distinct
    rw [hentries, List.map_append, List.map_cons, List.nodup_append] at hdistinct
    have hne := hdistinct.2.2 entry.1 (List.mem_map_of_mem hentry) place List.mem_cons_self
    simpa using hne.symm
  · rintro ⟨before, after, hentries, -⟩
    rw [hentries]
    simp

/-! ## Walks -/

/-- A place is below another if names lead there. -/
theorem below?_eq_some_iff {place other names : List String} :
    below? place other = some names ↔ other = place ++ names := by
  induction place generalizing other with
  | nil => simp [below?, eq_comm]
  | cons a place ih =>
    cases other with
    | nil => simp [below?]
    | cons b other =>
      rw [below?]
      by_cases hab : a = b
      · rw [if_pos hab, ih]
        simp [hab]
      · rw [if_neg hab]
        simp [Ne.symm hab]

/-- What a walk from a place finds in an entry: the names that lead on, and what stands there. -/
def found? {α : Type} (place : Place) (entry : Place × α) : Option (List String × α) :=
  (below? place entry.1).bind fun names => if names = [] then none else some (names, entry.2)

/-- An entry is found if it stands below the place. -/
theorem found?_eq_some_iff {α : Type} {place : Place} {entry : Place × α}
    {found : List String × α} :
    found? place entry = some found ↔ found.1 ≠ [] ∧ entry = (place ++ found.1, found.2) := by
  obtain ⟨names, node⟩ := found
  obtain ⟨other, stands⟩ := entry
  simp only [found?, Option.bind_eq_some_iff, below?_eq_some_iff, Prod.mk.injEq]
  constructor
  · rintro ⟨names', rfl, h⟩
    by_cases hnil : names' = []
    · simp [hnil] at h
    · rw [if_neg hnil] at h
      obtain ⟨rfl, rfl⟩ := Prod.mk.inj (Option.some.inj h)
      exact ⟨hnil, rfl, rfl⟩
  · rintro ⟨hnil, rfl, rfl⟩
    exact ⟨names, rfl, if_neg hnil⟩

/-- A walk finds the entries below a place, in order. -/
theorem walk_eq_mergeSort (tree : FileTree) (place : Place) :
    tree.walk place =
      (tree.entries.filterMap (found? place)).mergeSort fun a b => inOrder a.1 b.1 := by
  rw [walk]
  congr 1
  refine List.filterMap_congr fun entry _ => ?_
  obtain ⟨other, node⟩ := entry
  simp only [found?]
  cases below? place other with
  | none => rfl
  | some names => simp

/-- A walk finds exactly the entries below a place. -/
theorem mem_walk_iff {place : Place} {found : List String × Node} :
    found ∈ tree.walk place ↔ found.1 ≠ [] ∧ (place ++ found.1, found.2) ∈ tree.entries := by
  rw [walk_eq_mergeSort, List.mem_mergeSort, List.mem_filterMap]
  simp only [found?_eq_some_iff]
  constructor
  · rintro ⟨entry, hentry, hnil, rfl⟩
    exact ⟨hnil, hentry⟩
  · rintro ⟨hnil, hentry⟩
    exact ⟨_, hentry, hnil, rfl⟩

/-- A walk hands out what stands below a place. -/
theorem WellFormed.mem_walk_iff (h : tree.WellFormed) {place : Place}
    {found : List String × Node} :
    found ∈ tree.walk place ↔ found.1 ≠ [] ∧ tree.get? (place ++ found.1) = some found.2 := by
  rw [FileTree.mem_walk_iff]
  refine and_congr_right fun hnil => h.mem_entries_iff ?_
  simp [hnil]

/-- A walk hands out everything once and in order. -/
theorem WellFormed.pairwise_walk (h : tree.WellFormed) (place : Place) :
    (tree.walk place).Pairwise fun a b => a.1 < b.1 := by
  have hsorted : (tree.walk place).Pairwise fun a b => inOrder a.1 b.1 = true := by
    rw [walk_eq_mergeSort]
    refine List.pairwise_mergeSort (fun a b c => ?_) (fun a b => ?_) _
    · exact inOrder_trans
    · exact inOrder_total a.1 b.1
  have hdistinct : (tree.walk place).Pairwise fun a b => a.1 ≠ b.1 := by
    rw [walk_eq_mergeSort]
    refine ((List.mergeSort_perm _ _).pairwise_iff fun hne => hne.symm).mpr ?_
    refine List.Pairwise.filterMap _ ?_ (List.pairwise_map.mp h.distinct)
    intro entry other hne found hfound further hfurther heq
    obtain ⟨-, rfl⟩ := found?_eq_some_iff.mp hfound
    obtain ⟨-, rfl⟩ := found?_eq_some_iff.mp hfurther
    exact hne (by rw [heq])
  exact (hsorted.and hdistinct).imp fun ⟨horder, hne⟩ => lt_of_inOrder_of_ne horder hne

/-! ## Source files below a path -/

/-- The sources of a directory are what a walk finds under their names. -/
theorem sources_eq_filter {path : Path} {place : Place} (hpath : tree.placeOf path = .ok place)
    (hdirectory : tree.get? place = some .directory) :
    tree.sources path =
      (tree.walk place).filter fun found => isSourceName (found.1.getLastD "") := by
  simp only [sources, hpath, hdirectory]

/-- There are no sources where there is no directory. -/
theorem sources_eq_nil {path : Path}
    (hpath : ∀ place, tree.placeOf path = .ok place → tree.get? place ≠ some .directory) :
    tree.sources path = [] := by
  rw [sources]
  split
  · rfl
  · next place hplace =>
    split
    · next hdirectory => exact absurd hdirectory (hpath place hplace)
    · rfl

/-- A path leads to a directory if there is one at its place. -/
theorem isDirectory_iff {path : Path} :
    tree.isDirectory path = true ↔
      ∃ place, tree.placeOf path = .ok place ∧ tree.get? place = some .directory := by
  rw [isDirectory, find]
  cases tree.placeOf path with
  | error cause => simp
  | ok place =>
    cases hnode : tree.get? place with
    | none => simp [hnode]
    | some node => cases node <;> simp [hnode]

/-- The directory of a name inside another one stands at that name below its place. -/
theorem placeOf_child {path : Path} {place : Place} (hpath : tree.placeOf path = .ok place)
    {name : String} (hname : name ≠ "..") (hchild : tree.isDirectory (path.child name) = true) :
    tree.placeOf (path.child name) = .ok (place ++ [name]) ∧
      tree.get? (place ++ [name]) = some .directory := by
  obtain ⟨found, hfound, hdirectory⟩ := isDirectory_iff.mp hchild
  obtain ⟨-, hfollow⟩ := placeOf_eq_ok_iff.mp hpath
  obtain ⟨middle, hmiddle, hlast⟩ :=
    follow_append_eq_ok_iff.mp (placeOf_eq_ok_iff.mp hfound).2
  obtain rfl := Except.ok.inj (hmiddle.symm.trans hfollow)
  obtain ⟨-, -, hstep⟩ := follow_cons_eq_ok_iff.mp hlast
  obtain rfl : middle ++ [name] = found := by
    rw [follow, step, if_neg hname] at hstep
    exact Except.ok.inj hstep
  exact ⟨hfound, hdirectory⟩

/-! ## Another content for a file -/

/-- What was found below a place, with another node if it stands at the given place. -/
def withNode (base place : Place) (node : Node) (found : List String × Node) :
    List String × Node :=
  (found.1, if base ++ found.1 = place then node else found.2)

/-- A list in which a place does not occur stays as it is. -/
theorem map_withNode_eq_self {base place : Place} {list : List (List String × Node)}
    (hlist : ∀ found ∈ list, base ++ found.1 ≠ place) (node : Node) :
    list.map (withNode base place node) = list := by
  refine (List.map_congr_left fun found hfound => ?_).trans (List.map_id' list)
  rw [withNode, if_neg (hlist found hfound)]

/-- Of names in strict order only one leads to a place, so only its node is another. -/
theorem map_withNode_append_cons {base : Place} {names : List String} {node : Node}
    {before after : List (List String × Node)}
    (hordered : (before ++ (names, node) :: after).Pairwise fun a b => a.1 < b.1) (new : Node) :
    (before ++ (names, node) :: after).map (withNode base (base ++ names) new) =
      before ++ (names, new) :: after := by
  obtain ⟨-, hlater, hearlier⟩ := List.pairwise_append.mp hordered
  have hbefore : before.map (withNode base (base ++ names) new) = before := by
    refine map_withNode_eq_self (fun found hfound hplace => ?_) new
    have hlt := hearlier found hfound _ List.mem_cons_self
    exact ne_of_names_lt hlt (List.append_cancel_left hplace)
  have hafter : after.map (withNode base (base ++ names) new) = after := by
    refine map_withNode_eq_self (fun found hfound hplace => ?_) new
    have hlt := List.rel_of_pairwise_cons hlater hfound
    exact ne_of_names_lt hlt (List.append_cancel_left hplace).symm
  rw [List.map_append, List.map_cons, hbefore, hafter, withNode, if_pos rfl]

/-- An entry for a place that is listed once gets its node where it stands. -/
theorem setEntry_eq_map {place : Place} {entries : List (Place × Node)}
    (hdistinct : (entries.map Prod.fst).Nodup) (hplace : place ∈ entries.map Prod.fst)
    (node : Node) : setEntry place node entries = entries.map (withNode [] place node) := by
  induction entries with
  | nil => simp at hplace
  | cons entry later ih =>
    obtain ⟨p, n⟩ := entry
    obtain ⟨hnew, hlater⟩ := List.nodup_cons.mp hdistinct
    rw [setEntry, List.map_cons]
    by_cases hp : p = place
    · have hsame : later.map (withNode [] place node) = later := by
        refine map_withNode_eq_self (fun entry hentry heq => ?_) node
        exact hnew (List.mem_map.mpr ⟨entry, hentry, heq.trans hp.symm⟩)
      rw [if_pos hp, hsame, withNode, List.nil_append, if_pos hp]
    · have hrest : place ∈ later.map Prod.fst :=
        (List.mem_cons.mp hplace).resolve_left (Ne.symm hp)
      rw [if_neg hp, ih hlater hrest, withNode, List.nil_append, if_neg hp]

section NewContent

variable {place : Place} {old : Content} (hold : tree.get? place = some (.file old))
  (new : Content)

include hold

/-- A file does not stand at the root. -/
theorem place_ne_nil : place ≠ [] := by
  rintro rfl
  simp [get?] at hold

/-- A file that is overwritten is found at its place, and all else where it was. -/
theorem get?_set_file (other : Place) :
    (tree.set place (.file new)).get? other =
      if other = place then some (.file new) else tree.get? other :=
  get?_set tree (place_ne_nil hold) _ other

/-- Names lead where they led before. -/
theorem follow_set_file (start : Place) (names : List String) :
    (tree.set place (.file new)).follow start names = tree.follow start names := by
  induction names generalizing start with
  | nil => rfl
  | cons name later ih =>
    rw [follow, follow, get?_set_file hold]
    by_cases hstart : start = place
    · rw [if_pos hstart, hstart, hold]
    · rw [if_neg hstart, ih]

/-- Paths lead to the same places as before. -/
theorem placeOf_set_file (path : Path) :
    (tree.set place (.file new)).placeOf path = tree.placeOf path := by
  rw [placeOf, placeOf, follow_set_file hold]
  rfl

/-- The same places are directories as before. -/
theorem get?_set_file_eq_directory_iff (other : Place) :
    (tree.set place (.file new)).get? other = some .directory ↔
      tree.get? other = some .directory := by
  rw [get?_set_file hold]
  by_cases hother : other = place
  · rw [if_pos hother, hother, hold]
    simp
  · rw [if_neg hother]

/-- The same paths lead to directories as before. -/
theorem isDirectory_set_file (path : Path) :
    (tree.set place (.file new)).isDirectory path = tree.isDirectory path := by
  rw [Bool.eq_iff_iff, isDirectory_iff, isDirectory_iff, placeOf_set_file hold]
  simp only [get?_set_file_eq_directory_iff hold]

/-- A walk finds the new content in the place of the old one and all else as it was. -/
theorem WellFormed.walk_set_file (h : tree.WellFormed) (base : Place) :
    (tree.set place (.file new)).walk base =
      (tree.walk base).map (withNode base place (.file new)) := by
  have hlisted : place ∈ tree.entries.map Prod.fst :=
    List.mem_map_of_mem ((h.mem_entries_iff (place_ne_nil hold)).mpr hold)
  have hentries : (tree.set place (.file new)).entries =
      tree.entries.map (withNode [] place (.file new)) :=
    setEntry_eq_map h.distinct hlisted (.file new)
  have hfound (entry : Place × Node) : found? base (withNode [] place (.file new) entry) =
      (found? base entry).map (withNode base place (.file new)) := by
    simp only [found?, withNode, List.nil_append]
    cases hbelow : below? base entry.1 with
    | none => rfl
    | some names =>
      rw [below?_eq_some_iff.mp hbelow]
      by_cases hnil : names = []
      · simp [hnil]
      · simp [hnil, withNode]
  have hmap : (tree.set place (.file new)).entries.filterMap (found? base) =
      (tree.entries.filterMap (found? base)).map (withNode base place (.file new)) := by
    rw [hentries, List.filterMap_map, List.map_filterMap]
    exact List.filterMap_congr fun entry _ => hfound entry
  rw [walk_eq_mergeSort, walk_eq_mergeSort, hmap]
  symm
  apply List.map_mergeSort
  intro found _ other _
  rfl

/-- The node at the place is another in the list of source files, or the place is not listed and the
list stays the same. -/
theorem WellFormed.sources_set_file (h : tree.WellFormed) (path : Path) :
    ((tree.set place (.file new)).sources path = tree.sources path ∧
      ∀ found ∈ tree.sources path, ∀ base, tree.placeOf path = .ok base →
        base ++ found.1 ≠ place) ∨
      ∃ base names before after, tree.placeOf path = .ok base ∧ base ++ names = place ∧
        tree.sources path = before ++ (names, .file old) :: after ∧
        (tree.set place (.file new)).sources path = before ++ (names, .file new) :: after := by
  by_cases hbase : ∃ base, tree.placeOf path = .ok base ∧ tree.get? base = some .directory
  · obtain ⟨base, hpath, hdirectory⟩ := hbase
    have hsources := sources_eq_filter hpath hdirectory
    have hset : (tree.set place (.file new)).sources path =
        (tree.sources path).map (withNode base place (.file new)) := by
      rw [sources_eq_filter ((placeOf_set_file hold new path).trans hpath)
        ((get?_set_file_eq_directory_iff hold new base).mpr hdirectory), hsources,
        h.walk_set_file hold, List.filter_map]
      rfl
    by_cases hmine : ∃ found ∈ tree.sources path, base ++ found.1 = place
    · right
      obtain ⟨⟨names, node⟩, hfound, rfl⟩ := hmine
      have hwalk : (names, node) ∈ tree.walk base := by
        rw [hsources] at hfound
        exact (List.mem_filter.mp hfound).1
      obtain rfl : node = .file old := by
        have hget := (h.mem_walk_iff.mp hwalk).2
        exact (Option.some.inj (hold.symm.trans hget)).symm
      obtain ⟨before, after, hsplit⟩ := List.append_of_mem hfound
      refine ⟨base, names, before, after, hpath, rfl, hsplit, ?_⟩
      rw [hset, hsplit]
      refine map_withNode_append_cons ?_ (.file new)
      rw [← hsplit, hsources]
      exact (h.pairwise_walk base).filter _
    · left
      have hother : ∀ found ∈ tree.sources path, base ++ found.1 ≠ place :=
        fun found hfound hplace => hmine ⟨found, hfound, hplace⟩
      refine ⟨by rw [hset, map_withNode_eq_self hother], fun found hfound further hfurther => ?_⟩
      obtain rfl := Except.ok.inj (hpath.symm.trans hfurther)
      exact hother found hfound
  · left
    have hnone : ∀ base, tree.placeOf path = .ok base → tree.get? base ≠ some .directory :=
      fun base hpath hdirectory => hbase ⟨base, hpath, hdirectory⟩
    rw [sources_eq_nil hnone, sources_eq_nil]
    · exact ⟨rfl, by simp⟩
    intro base hpath
    rw [placeOf_set_file hold] at hpath
    rw [Ne, get?_set_file_eq_directory_iff hold]
    exact hnone base hpath

end NewContent

end NearMiss.FileTree
