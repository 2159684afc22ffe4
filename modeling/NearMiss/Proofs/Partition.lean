import NearMiss.Proofs.Matching
import Mathlib.Algebra.Ring.Nat
import Mathlib.Data.Finset.Card

/-!
# The index partitions the corpus

An index is filled entry by entry. Each entry goes into one bucket and no bucket loses any, so the
buckets together hold the entries of the corpus as often as they occur there. What is read from an
index then agrees with the corpus: a bucket is the filter of the corpus by its key, and the keys are
those of the entries.
-/

namespace NearMiss

namespace Grouping

variable {α κ : Type} [DecidableEq κ]

/-- The values of all groups, one group after the other. -/
def values (g : Grouping κ α) : List α :=
  g.groups.flatMap Prod.snd

/-- A value is added to one group, and no other value is lost or moved to another group. -/
theorem values_push_perm (g : Grouping κ α) (key : κ) (value : α) :
    (g.push key value).values.Perm (value :: g.values) := by
  obtain ⟨groups⟩ := g
  change ((pushGroup key value groups).flatMap Prod.snd).Perm
    (value :: groups.flatMap Prod.snd)
  induction groups with
  | nil => exact List.Perm.refl _
  | cons group later ih =>
    obtain ⟨k, held⟩ := group
    rw [pushGroup]
    by_cases hk : k = key
    · have hadded : ((k, held ++ [value]) :: later).flatMap Prod.snd =
          held ++ value :: later.flatMap Prod.snd := by simp
      rw [if_pos hk, hadded]
      exact List.perm_middle
    · rw [if_neg hk, List.flatMap_cons, List.flatMap_cons]
      exact (ih.append_left held).trans List.perm_middle

/-- A grouping holds the values it was made of, each as often as it was there. -/
theorem values_ofList_perm (key : α → κ) (values : List α) :
    (ofList key values).values.Perm values := by
  induction values using List.reverseRecOn with
  | nil => exact List.Perm.refl _
  | append_singleton values value ih =>
    rw [ofList_concat]
    have hpush := values_push_perm (ofList key values) (key value) value
    exact hpush.trans ((ih.cons value).trans (List.perm_append_singleton value values).symm)

/-- The keys of groups are those of the values, in the order in which they first come. -/
theorem keys_ofList (key : α → κ) (values : List α) :
    (ofList key values).keys = distinct (values.map key) := by
  rw [keys, groups_ofList, List.map_map]
  exact List.map_id _

/-- There is no group for a key that no value has. -/
theorem get?_ofList_eq_none_iff {key : α → κ} {values : List α} {k : κ} :
    (ofList key values).get? k = none ↔ ∀ v ∈ values, key v ≠ k := by
  rw [get?_ofList]
  split
  · next hnone => simpa [List.filter_eq_nil_iff] using hnone
  · next hsome => simpa [List.filter_eq_nil_iff] using hsome

/-- A group has the values with its key, in their order. -/
theorem eq_filter_of_get?_ofList {key : α → κ} {values group : List α} {k : κ}
    (h : (ofList key values).get? k = some group) :
    group = values.filter fun v => key v = k := by
  rw [get?_ofList] at h
  split at h
  · simp at h
  · exact (Option.some.inj h).symm

/-- Every group that is kept is found under its key and has a value. -/
theorem get?_of_mem_groups_ofList {key : α → κ} {values : List α} {group : κ × List α}
    (h : group ∈ (ofList key values).groups) :
    (ofList key values).get? group.1 = some group.2 ∧ group.2 ≠ [] := by
  rw [groups_ofList] at h
  obtain ⟨k, hk, rfl⟩ := List.mem_map.mp h
  obtain ⟨v, hv, rfl⟩ := List.mem_map.mp (mem_distinct.mp hk)
  have hne : values.filter (fun w => key w = key v) ≠ [] :=
    List.ne_nil_of_mem (List.mem_filter.mpr ⟨hv, by simp⟩)
  refine ⟨?_, hne⟩
  rw [get?_ofList, if_neg hne]

end Grouping

/-- A list that names each value once is as long as there are different values. -/
theorem FirstSeen.length_eq_card {κ : Type} [DecidableEq κ] {seen all : List κ}
    (h : FirstSeen seen all) : seen.length = all.toFinset.card := by
  have hsame : seen.toFinset = all.toFinset := by
    ext a
    rw [List.mem_toFinset, List.mem_toFinset]
    exact h.mem_iff a
  rw [← hsame, List.toFinset_card_of_nodup h.nodup]

namespace Index

/-- The entries of a corpus are divided among the buckets of an index by their keys, and the index
says so in all that can be read from it. -/
structure Partitions (index : Index) (corpus : List InterfaceMethod) : Prop where
  /-- A key has no bucket exactly if no entry has the key. -/
  get?_eq_none_iff : ∀ key, index.get? key = none ↔ ∀ entry ∈ corpus, entry.key ≠ key
  /-- A bucket holds all entries of its key, in corpus order and as often as they occur. -/
  get?_eq_some : ∀ key bucket, index.get? key = some bucket →
    bucket = corpus.filter fun entry => entry.key = key
  /-- The keys that are contained are those with a bucket. -/
  contains_iff : ∀ key, index.contains key = true ↔ index.get? key ≠ none
  /-- Each key of the corpus is listed once, in order of first occurrence. -/
  keys_firstSeen : FirstSeen index.keys (corpus.map fun entry => entry.key)
  /-- The size is the number of different keys. -/
  size_eq : index.size = (corpus.map fun entry => entry.key).toFinset.card
  /-- Every bucket that is kept is found under its key, and none is empty. -/
  bucket_ne_nil : ∀ group ∈ index.buckets.groups,
    index.get? group.1 = some group.2 ∧ group.2 ≠ []
  /-- The buckets together hold the entries of the corpus. -/
  perm : index.buckets.values.Perm corpus
  /-- So the lengths of the buckets add up to that of the corpus. -/
  sum_lengths : (index.buckets.groups.map fun group => group.2.length).sum = corpus.length
  /-- A method is looked up under the key of its shape. -/
  lookup?_eq : ∀ m, index.lookup? m = index.get? m.key

/-- The index of a corpus divides it exactly, for every corpus. -/
theorem build_partitions (corpus : List InterfaceMethod) : (build corpus).Partitions corpus := by
  have hkeys : FirstSeen (build corpus).keys (corpus.map fun entry => entry.key) := by
    have hdistinct : (build corpus).keys =
        distinct (corpus.map fun entry => entry.key) :=
      Grouping.keys_ofList (fun entry : InterfaceMethod => entry.key) corpus
    rw [hdistinct]
    exact firstSeen_distinct _
  have hperm : (build corpus).buckets.values.Perm corpus :=
    Grouping.values_ofList_perm (fun entry : InterfaceMethod => entry.key) corpus
  refine ⟨?_, ?_, ?_, hkeys, ?_, ?_, hperm, ?_, ?_⟩
  · intro key
    exact Grouping.get?_ofList_eq_none_iff
  · intro key bucket hbucket
    exact Grouping.eq_filter_of_get?_ofList hbucket
  · intro key
    exact Option.isSome_iff_ne_none
  · have hsize : (build corpus).size = (build corpus).keys.length := (List.length_map _).symm
    rw [hsize, hkeys.length_eq_card]
  · intro group hgroup
    exact Grouping.get?_of_mem_groups_ofList hgroup
  · rw [← hperm.length_eq, Grouping.values, List.length_flatMap]
  · intro m
    rfl

end Index

end NearMiss
