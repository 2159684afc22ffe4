import NearMiss.Proofs.Matching

/-!
# A corpus that grows

What is added to a corpus stands behind what was there, and so does what it adds to the suggestions
for a method. A name or an interface that is new comes last and one that was there keeps its place,
so growth extends the list of names and the interfaces of each name at their ends. The one exception
is an entry of the method's shape that has its name: it silences all suggestions at once.
-/

namespace NearMiss

/-! ## Lists without repetition -/

/-- Values that are added come behind those that were there, each that is new where it first
occurs. -/
theorem distinct_append {κ : Type} [DecidableEq κ] (xs ys : List κ) :
    distinct (xs ++ ys) = distinct xs ++ (distinct ys).filter (· ∉ xs) := by
  induction ys using List.reverseRecOn with
  | nil =>
    rw [List.append_nil]
    exact (List.append_nil _).symm
  | append_singleton ys y ih =>
    have hmem : y ∈ distinct (xs ++ ys) ↔ y ∈ xs ∨ y ∈ distinct ys := by
      rw [mem_distinct, mem_distinct, List.mem_append]
    rw [← List.append_assoc, distinct_concat, distinct_concat, ih]
    rw [ih] at hmem
    by_cases hold : y ∈ xs
    · -- A value of `xs` is left out on both sides, whether or not it is in `ys`.
      rw [if_pos (hmem.mpr (Or.inl hold))]
      split
      · rfl
      · simp [hold]
    · by_cases hnew : y ∈ distinct ys
      · rw [if_pos (hmem.mpr (Or.inr hnew)), if_pos hnew]
      · rw [if_neg (mt hmem.mp (not_or.mpr ⟨hold, hnew⟩)), if_neg hnew, List.filter_append,
          List.append_assoc]
        simp [hold]

/-- Values that were there already change nothing. -/
theorem distinct_append_of_subset {κ : Type} [DecidableEq κ] {xs ys : List κ} (h : ys ⊆ xs) :
    distinct (xs ++ ys) = distinct xs := by
  have hnone : (distinct ys).filter (· ∉ xs) = [] := by
    refine List.filter_eq_nil_iff.mpr fun y hy => ?_
    simpa using h (mem_distinct.mp hy)
  rw [distinct_append, hnone, List.append_nil]

namespace Suggestion

/-! ## Suggestions -/

/-- Suggestions that go on where others end: the names of the others come first, in their order, and
each of these names has its interfaces before any further ones. -/
structure Extends (before after : List Suggestion) : Prop where
  /-- The names that were proposed come first. -/
  targets : before.map targetName <+: after.map targetName
  /-- The interfaces that were given for a name come first. -/
  sources : ∀ (i : Nat) (s : Suggestion), before[i]? = some s →
    ∃ t, after[i]? = some t ∧ t.targetName = s.targetName ∧ s.sources <+: t.sources

/-- The interfaces that a bucket gives for a name. -/
def sourcesIn (bucket : List InterfaceMethod) (name : String) : List Source :=
  distinct ((bucket.filter fun entry => entry.name = name).map InterfaceMethod.source)

/-- The sources of a name are kept, and new ones stand behind them. -/
theorem sourcesIn_append (old new : List InterfaceMethod) (name : String) :
    sourcesIn old name <+: sourcesIn (old ++ new) name := by
  rw [sourcesIn, sourcesIn, List.filter_append, List.map_append, distinct_append]
  exact List.prefix_append _ _

/-- The names of methods are kept, and new ones stand behind them. -/
theorem names_append (old new : List InterfaceMethod) :
    distinct (old.map (·.name)) <+: distinct ((old ++ new).map (·.name)) := by
  rw [List.map_append, distinct_append]
  exact List.prefix_append _ _

/-- A bucket that grows extends what it suggests. -/
theorem extends_ofBucket_append (old new : List InterfaceMethod) :
    Extends (ofBucket old) (ofBucket (old ++ new)) where
  targets := by
    rw [map_targetName_ofBucket, map_targetName_ofBucket]
    exact names_append old new
  sources i s hs := by
    rw [ofBucket_eq, List.getElem?_map] at hs ⊢
    obtain ⟨name, hname, rfl⟩ := Option.map_eq_some_iff.mp hs
    obtain ⟨hi, -⟩ := List.getElem?_eq_some_iff.mp hname
    obtain ⟨later, hlater⟩ := names_append old new
    refine ⟨⟨name, sourcesIn (old ++ new) name⟩, ?_, rfl, sourcesIn_append old new name⟩
    rw [← hlater, List.getElem?_append_left hi, hname]
    rfl

/-- A bucket to which nothing but known names of known interfaces is added suggests the same. -/
theorem ofBucket_append_of_repeats {old new : List InterfaceMethod}
    (h : ∀ entry ∈ new, ∃ known ∈ old, known.name = entry.name ∧ known.source = entry.source) :
    ofBucket (old ++ new) = ofBucket old := by
  have hnames : distinct ((old ++ new).map (·.name)) = distinct (old.map (·.name)) := by
    rw [List.map_append]
    refine distinct_append_of_subset fun name hmem => ?_
    obtain ⟨entry, hentry, rfl⟩ := List.mem_map.mp hmem
    obtain ⟨known, hknown, hname, -⟩ := h entry hentry
    exact List.mem_map.mpr ⟨known, hknown, hname⟩
  have hsources (name : String) : sourcesIn (old ++ new) name = sourcesIn old name := by
    rw [sourcesIn, List.filter_append, List.map_append]
    refine distinct_append_of_subset fun source hmem => ?_
    obtain ⟨entry, hfilter, rfl⟩ := List.mem_map.mp hmem
    obtain ⟨hentry, hown⟩ := List.mem_filter.mp hfilter
    obtain ⟨known, hknown, hname, hsource⟩ := h entry hentry
    refine List.mem_map.mpr ⟨known, List.mem_filter.mpr ⟨hknown, ?_⟩, hsource⟩
    rwa [hname]
  rw [ofBucket_eq, ofBucket_eq, hnames]
  exact List.map_congr_left fun name _ => congrArg (Suggestion.mk name) (hsources name)

/-- Methods of one shape make suggestions unless there are none. -/
theorem ofBucket_eq_nil_iff {bucket : List InterfaceMethod} :
    ofBucket bucket = [] ↔ bucket = [] := by
  constructor
  · intro hnone
    refine List.eq_nil_iff_forall_not_mem.mpr fun entry hentry => ?_
    have hname : entry.name ∈ (ofBucket bucket).map targetName := by
      rw [map_targetName_ofBucket, mem_distinct]
      exact List.mem_map_of_mem hentry
    simp [hnone] at hname
  · rintro rfl
    rfl

end Suggestion

/-- An entry of a corpus has the shape and the name of the method. -/
def HasOwnName (corpus : List InterfaceMethod) (m : Method) : Prop :=
  ∃ entry ∈ sameShape corpus m, entry.name = m.name

/-- The entries of a shape are those with its key. -/
theorem mem_sameShape {corpus : List InterfaceMethod} {m : Method} {entry : InterfaceMethod} :
    entry ∈ sameShape corpus m ↔ entry ∈ corpus ∧ entry.key = m.key := by
  simp [sameShape]

/-- The entries of a shape in a longer corpus are those of its parts. -/
theorem sameShape_append (corpus more : List InterfaceMethod) (m : Method) :
    sameShape (corpus ++ more) m = sameShape corpus m ++ sameShape more m :=
  List.filter_append ..

/-- A longer corpus has the own name of a method if one of its parts has. -/
theorem hasOwnName_append {corpus more : List InterfaceMethod} {m : Method} :
    HasOwnName (corpus ++ more) m ↔ HasOwnName corpus m ∨ HasOwnName more m := by
  simp only [HasOwnName, sameShape_append, List.mem_append, or_and_right, exists_or]

namespace Suggestion

/-- There are no suggestions about a method whose name is in the corpus. -/
theorem forMethod_of_hasOwnName {corpus : List InterfaceMethod} {m : Method}
    (hown : HasOwnName corpus m) : forMethod (Index.build corpus) m = [] := by
  rw [forMethod_build]
  exact if_pos hown

/-- Any other method gets the suggestions of its shape. -/
theorem forMethod_of_not_hasOwnName {corpus : List InterfaceMethod} {m : Method}
    (hother : ¬HasOwnName corpus m) :
    forMethod (Index.build corpus) m = ofBucket (sameShape corpus m) := by
  rw [forMethod_build]
  exact if_neg hother

/-- Nothing is suggested exactly if no entry has the method's shape or one of them has its name. -/
theorem forMethod_eq_nil_iff {corpus : List InterfaceMethod} {m : Method} :
    forMethod (Index.build corpus) m = [] ↔ sameShape corpus m = [] ∨ HasOwnName corpus m := by
  by_cases hown : HasOwnName corpus m
  · simp [forMethod_of_hasOwnName hown, hown]
  · rw [forMethod_of_not_hasOwnName hown, ofBucket_eq_nil_iff, or_iff_left hown]

/-- Entries that are added extend the suggestions, unless one of all entries has the method's
name. -/
theorem extends_forMethod_append {corpus more : List InterfaceMethod} {m : Method}
    (hother : ¬HasOwnName (corpus ++ more) m) :
    Extends (forMethod (Index.build corpus) m) (forMethod (Index.build (corpus ++ more)) m) := by
  have hbefore : ¬HasOwnName corpus m := fun hown => hother (hasOwnName_append.mpr (Or.inl hown))
  rw [forMethod_of_not_hasOwnName hother, forMethod_of_not_hasOwnName hbefore, sameShape_append]
  exact extends_ofBucket_append _ _

/-- A method with suggestions loses them exactly if an entry that is added has its name. -/
theorem forMethod_append_eq_nil_iff {corpus more : List InterfaceMethod} {m : Method}
    (hbefore : forMethod (Index.build corpus) m ≠ []) :
    forMethod (Index.build (corpus ++ more)) m = [] ↔ HasOwnName more m := by
  obtain ⟨hsome, hother⟩ := not_or.mp (mt forMethod_eq_nil_iff.mpr hbefore)
  have hstill : sameShape (corpus ++ more) m ≠ [] := by
    rw [sameShape_append]
    exact List.append_ne_nil_of_left_ne_nil hsome _
  rw [forMethod_eq_nil_iff, or_iff_right hstill, hasOwnName_append, or_iff_right hother]

/-- Entries that repeat others of the method's shape change nothing. -/
theorem forMethod_append_of_repeats {corpus more : List InterfaceMethod} {m : Method}
    (h : ∀ entry ∈ sameShape more m, ∃ known ∈ sameShape corpus m,
      known.name = entry.name ∧ known.source = entry.source) :
    forMethod (Index.build (corpus ++ more)) m = forMethod (Index.build corpus) m := by
  by_cases hown : HasOwnName corpus m
  · have hafter : HasOwnName (corpus ++ more) m := hasOwnName_append.mpr (Or.inl hown)
    rw [forMethod_of_hasOwnName hown, forMethod_of_hasOwnName hafter]
  · have hafter : ¬HasOwnName (corpus ++ more) m := by
      rw [hasOwnName_append, or_iff_right hown]
      rintro ⟨entry, hentry, hname⟩
      obtain ⟨known, hknown, hsame, -⟩ := h entry hentry
      exact hown ⟨known, hknown, hsame.trans hname⟩
    rw [forMethod_of_not_hasOwnName hown, forMethod_of_not_hasOwnName hafter, sameShape_append,
      ofBucket_append_of_repeats h]

/-- A corpus that grows either silences a method or extends what is suggested for it. It silences a
method that had suggestions exactly if an entry that is added has its shape and its name. And if
each entry of the method's shape that is added repeats the package, the interface and the name of
one that was there, nothing changes. -/
theorem forMethod_build_append (corpus more : List InterfaceMethod) (m : Method) :
    let before := forMethod (Index.build corpus) m
    let after := forMethod (Index.build (corpus ++ more)) m
    (after = [] ∨ Extends before after) ∧
      (after = [] ∧ before ≠ [] ↔
        (∃ entry ∈ more, entry.key = m.key ∧ entry.name = m.name) ∧ before ≠ []) ∧
      ((∀ entry ∈ more, entry.key = m.key → ∃ known ∈ corpus, known.key = m.key ∧
        known.package = entry.package ∧ known.interface = entry.interface ∧
        known.name = entry.name) → after = before) := by
  intro before after
  refine ⟨?_, and_congr_left fun hbefore => ?_, fun hrepeats => ?_⟩
  · by_cases hown : HasOwnName (corpus ++ more) m
    · exact Or.inl (forMethod_of_hasOwnName hown)
    · exact Or.inr (extends_forMethod_append hown)
  · rw [forMethod_append_eq_nil_iff hbefore]
    simp only [HasOwnName, mem_sameShape, and_assoc]
  · refine forMethod_append_of_repeats fun entry hentry => ?_
    obtain ⟨hmore, hkey⟩ := mem_sameShape.mp hentry
    obtain ⟨known, hcorpus, hkeyKnown, hpackage, hinterface, hname⟩ := hrepeats entry hmore hkey
    refine ⟨known, mem_sameShape.mpr ⟨hcorpus, hkeyKnown⟩, hname, ?_⟩
    rw [InterfaceMethod.source, InterfaceMethod.source, hpackage, hinterface]

/-- Entries behind the corpus of readers: an interface more for a name that is known, an entry of
another shape that has the method's name, and a new name. -/
def moreReaders : List InterfaceMethod :=
  [readEntry "Read" "net" "Conn", { readEntry "Reed" "io" "Seeker" with returns := [] },
    readEntry "Load" "cache" "Store"]

/-- The corpus of readers extended, silenced and repeated, as seen by a method named `Reed`. -/
theorem forMethod_build_append_readers :
    let m := (readEntry "Reed" "" "").toMethod
    forMethod (Index.build readCorpus) m =
        [⟨"Read", [⟨"io", "Reader"⟩, ⟨"bufio", "Source"⟩]⟩, ⟨"Fetch", [⟨"cache", "Store"⟩]⟩] ∧
      forMethod (Index.build (readCorpus ++ moreReaders)) m =
        [⟨"Read", [⟨"io", "Reader"⟩, ⟨"bufio", "Source"⟩, ⟨"net", "Conn"⟩]⟩,
          ⟨"Fetch", [⟨"cache", "Store"⟩]⟩, ⟨"Load", [⟨"cache", "Store"⟩]⟩] ∧
      Extends (forMethod (Index.build readCorpus) m)
        (forMethod (Index.build (readCorpus ++ moreReaders)) m) ∧
      forMethod (Index.build (readCorpus ++ [readEntry "Reed" "p" "I"])) m = [] ∧
      forMethod (Index.build (readCorpus ++ readCorpus)) m =
        forMethod (Index.build readCorpus) m := by
  intro m
  have hbefore : forMethod (Index.build readCorpus) m =
      [⟨"Read", [⟨"io", "Reader"⟩, ⟨"bufio", "Source"⟩]⟩, ⟨"Fetch", [⟨"cache", "Store"⟩]⟩] := by
    decide +kernel
  have hafter : forMethod (Index.build (readCorpus ++ moreReaders)) m =
      [⟨"Read", [⟨"io", "Reader"⟩, ⟨"bufio", "Source"⟩, ⟨"net", "Conn"⟩]⟩,
        ⟨"Fetch", [⟨"cache", "Store"⟩]⟩, ⟨"Load", [⟨"cache", "Store"⟩]⟩] := by
    decide +kernel
  have hne : forMethod (Index.build readCorpus) m ≠ [] := by simp [hbefore]
  refine ⟨hbefore, hafter, ?_, ?_, ?_⟩
  · refine (forMethod_build_append readCorpus moreReaders m).1.resolve_left ?_
    simp [hafter]
  · have hsilenced := (forMethod_build_append readCorpus [readEntry "Reed" "p" "I"] m).2.1
    exact (hsilenced.mpr ⟨⟨_, List.mem_singleton_self _, rfl, rfl⟩, hne⟩).1
  · refine (forMethod_build_append readCorpus readCorpus m).2.2 fun entry hentry hkey => ?_
    exact ⟨entry, hentry, hkey, rfl, rfl, rfl⟩

end Suggestion

end NearMiss
