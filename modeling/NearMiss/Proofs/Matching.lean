import NearMiss.Proofs.Grouping
import NearMiss.Suggestion

/-!
# Matching without the index

The suggestions for a method are those that a plain scan of the corpus gives: the entries of the
method's shape are picked out in corpus order, their names are proposed in order of first
occurrence, and each name comes with its interfaces in order of first occurrence.
-/

namespace NearMiss

/-- The entries of a corpus that have the shape of a method, in corpus order. -/
def sameShape (corpus : List InterfaceMethod) (m : Method) : List InterfaceMethod :=
  corpus.filter fun entry => entry.key = m.key

/-- An index finds the entries of the method's shape, or nothing if there are none. -/
theorem Index.lookup?_build (corpus : List InterfaceMethod) (m : Method) :
    (Index.build corpus).lookup? m =
      if sameShape corpus m = [] then none else some (sameShape corpus m) :=
  Grouping.get?_ofList (fun entry : InterfaceMethod => entry.key) corpus m.key

namespace Suggestion

/-- A bucket proposes each of its names once, with the interfaces of the entries of that name. -/
theorem ofBucket_eq (bucket : List InterfaceMethod) :
    ofBucket bucket = (distinct (bucket.map (·.name))).map fun name =>
      ⟨name, distinct ((bucket.filter fun entry => entry.name = name).map
        InterfaceMethod.source)⟩ := by
  rw [ofBucket, Grouping.groups_ofList, List.map_map]
  rfl

/-- The names that a bucket proposes are those of its entries. -/
theorem map_targetName_ofBucket (bucket : List InterfaceMethod) :
    (ofBucket bucket).map targetName = distinct (bucket.map (·.name)) := by
  rw [ofBucket_eq, List.map_map]
  exact List.map_id _

/-- A name is proposed with the interfaces of the entries that have it. -/
theorem sources_of_mem_ofBucket {bucket : List InterfaceMethod} {s : Suggestion}
    (hs : s ∈ ofBucket bucket) :
    s.sources = distinct ((bucket.filter fun entry => entry.name = s.targetName).map
      InterfaceMethod.source) := by
  rw [ofBucket_eq] at hs
  obtain ⟨name, -, rfl⟩ := List.mem_map.mp hs
  rfl

/-- A name is proposed because an entry has it. -/
theorem exists_entry_of_mem_ofBucket {bucket : List InterfaceMethod} {s : Suggestion}
    (hs : s ∈ ofBucket bucket) : ∃ entry ∈ bucket, entry.name = s.targetName := by
  have hname : s.targetName ∈ (ofBucket bucket).map targetName := List.mem_map_of_mem hs
  rw [map_targetName_ofBucket, mem_distinct] at hname
  exact List.mem_map.mp hname

/-- Every suggestion names an interface. -/
theorem sources_ne_nil_of_mem_ofBucket {bucket : List InterfaceMethod} {s : Suggestion}
    (hs : s ∈ ofBucket bucket) : s.sources ≠ [] := by
  obtain ⟨entry, hentry, hname⟩ := exists_entry_of_mem_ofBucket hs
  have hsource : entry.source ∈ s.sources := by
    rw [sources_of_mem_ofBucket hs, mem_distinct]
    exact List.mem_map_of_mem (List.mem_filter.mpr ⟨hentry, by simpa using hname⟩)
  exact List.ne_nil_of_mem hsource

/-- The index serves to find the entries of the method's shape. -/
theorem forMethod_build (corpus : List InterfaceMethod) (m : Method) :
    forMethod (Index.build corpus) m =
      if ∃ entry ∈ sameShape corpus m, entry.name = m.name then []
      else ofBucket (sameShape corpus m) := by
  rw [forMethod, Index.lookup?_build]
  by_cases hnone : sameShape corpus m = []
  · simp only [hnone, if_true, List.not_mem_nil, false_and, exists_false, if_false]
    rfl
  · simp only [if_neg hnone, List.any_eq_true, beq_iff_eq]

/-- Something is suggested only if no entry of the method's shape has its name. -/
theorem mem_forMethod_build_iff {corpus : List InterfaceMethod} {m : Method} {s : Suggestion} :
    s ∈ forMethod (Index.build corpus) m ↔
      (∀ entry ∈ sameShape corpus m, entry.name ≠ m.name) ∧
        s ∈ ofBucket (sameShape corpus m) := by
  rw [forMethod_build]
  split
  · next hown => simpa using fun h => absurd hown (by simpa using h)
  · next hother => exact ⟨fun hs => ⟨by simpa using hother, hs⟩, fun hs => hs.2⟩

/-- A suggestion proposes another name than the method has. -/
theorem targetName_ne_of_mem_forMethod {corpus : List InterfaceMethod} {m : Method}
    {s : Suggestion} (hs : s ∈ forMethod (Index.build corpus) m) : s.targetName ≠ m.name := by
  obtain ⟨hother, hbucket⟩ := mem_forMethod_build_iff.mp hs
  obtain ⟨entry, hentry, hname⟩ := exists_entry_of_mem_ofBucket hbucket
  exact hname ▸ hother entry hentry

/-- No name is proposed twice. -/
theorem nodup_map_targetName_forMethod (corpus : List InterfaceMethod) (m : Method) :
    ((forMethod (Index.build corpus) m).map targetName).Nodup := by
  rw [forMethod_build]
  split
  · exact List.nodup_nil
  · rw [map_targetName_ofBucket]
    exact (firstSeen_distinct _).nodup

/-- Matching through the index is a scan of the corpus. Nothing is suggested if no entry has the
method's shape or one of those has its name. Otherwise the proposed names are those of the entries
of that shape and the interfaces of a name are those of its entries, both without repetition and in
order of first occurrence. So a suggestion never proposes the method's own name, never repeats
another, and always names an interface. -/
theorem forMethod_eq_scan (corpus : List InterfaceMethod) (m : Method) :
    let entries := sameShape corpus m
    let found := forMethod (Index.build corpus) m
    (entries = [] ∨ (∃ entry ∈ entries, entry.name = m.name) → found = []) ∧
      (entries ≠ [] ∧ (∀ entry ∈ entries, entry.name ≠ m.name) →
        FirstSeen (found.map targetName) (entries.map (·.name)) ∧
          ∀ s ∈ found, FirstSeen s.sources
            ((entries.filter fun entry => entry.name = s.targetName).map
              InterfaceMethod.source)) ∧
      (∀ s ∈ found, s.targetName ≠ m.name ∧ s.sources ≠ []) ∧ (found.map targetName).Nodup := by
  refine ⟨?_, ?_, fun s hs => ?_, nodup_map_targetName_forMethod corpus m⟩
  · rintro (hnone | hown)
    · rw [forMethod_build, hnone]
      simp only [List.not_mem_nil, false_and, exists_false, if_false]
      rfl
    · rw [forMethod_build, if_pos hown]
  · rintro ⟨-, hother⟩
    rw [forMethod_build, if_neg (by simpa using hother), map_targetName_ofBucket]
    refine ⟨firstSeen_distinct _, fun s hs => ?_⟩
    rw [sources_of_mem_ofBucket hs]
    exact firstSeen_distinct _
  · have hbucket := (mem_forMethod_build_iff.mp hs).2
    exact ⟨targetName_ne_of_mem_forMethod hs, sources_ne_nil_of_mem_ofBucket hbucket⟩

/-- A method that reads octets, as an entry of a corpus. -/
def readEntry (name package interface : String) : InterfaceMethod where
  signature := ""
  name := name
  params := [⟨some "p", "[]byte", false, false⟩]
  returns := [⟨none, "int", false, false⟩, ⟨none, "error", false, false⟩]
  interface := interface
  package := package

/-- A corpus with a repeated name, a repeated interface and an entry of another shape. -/
def readCorpus : List InterfaceMethod :=
  [readEntry "Read" "io" "Reader", readEntry "Fetch" "cache" "Store",
    { readEntry "Seek" "io" "Seeker" with returns := [] },
    readEntry "Read" "bufio" "Source", readEntry "Read" "io" "Reader"]

/-- A method with a near miss gets a suggestion for each name, with all its sources. -/
theorem forMethod_readCorpus :
    let m := (readEntry "Reed" "" "").toMethod
    sameShape readCorpus m = [readEntry "Read" "io" "Reader", readEntry "Fetch" "cache" "Store",
        readEntry "Read" "bufio" "Source", readEntry "Read" "io" "Reader"] ∧
      forMethod (Index.build readCorpus) m =
        [⟨"Read", [⟨"io", "Reader"⟩, ⟨"bufio", "Source"⟩]⟩, ⟨"Fetch", [⟨"cache", "Store"⟩]⟩] ∧
      FirstSeen ["Read", "Fetch"] ["Read", "Fetch", "Read", "Read"] ∧
      FirstSeen [⟨"io", "Reader"⟩, ⟨"bufio", "Source"⟩]
        [⟨"io", "Reader"⟩, ⟨"bufio", "Source"⟩, (⟨"io", "Reader"⟩ : Source)] := by
  intro m
  have hshape : sameShape readCorpus m = [readEntry "Read" "io" "Reader",
      readEntry "Fetch" "cache" "Store", readEntry "Read" "bufio" "Source",
      readEntry "Read" "io" "Reader"] := by decide +kernel
  have hfound : forMethod (Index.build readCorpus) m =
      [⟨"Read", [⟨"io", "Reader"⟩, ⟨"bufio", "Source"⟩]⟩, ⟨"Fetch", [⟨"cache", "Store"⟩]⟩] := by
    decide +kernel
  have hscan := (forMethod_eq_scan readCorpus m).2.1
  rw [hshape, hfound] at hscan
  obtain ⟨hnames, hsources⟩ := hscan (by decide)
  exact ⟨hshape, hfound, hnames, hsources _ List.mem_cons_self⟩

end Suggestion

end NearMiss
