import NearMiss.Grouping
import Mathlib.Data.List.Basic
import Mathlib.Data.List.Induction
import Mathlib.Data.List.Nodup

/-!
# Order of first arrival

Groupings and lists without repetition are filled one value after the other. This file gives both in
closed form: a list without repetition names each value once, where it first occurs, and a grouping
has one group for each key, in the order in which the keys first came, with all values of that key.
-/

namespace NearMiss

variable {α κ : Type} [DecidableEq κ]

/-- The first list names each value of the second once, in order of first occurrence. -/
structure FirstSeen (seen all : List κ) : Prop where
  /-- No value is named twice. -/
  nodup : seen.Nodup
  /-- Exactly the values that occur are named. -/
  mem_iff : ∀ a, a ∈ seen ↔ a ∈ all
  /-- What is named earlier occurs earlier. -/
  ordered : seen.Pairwise fun a b => all.idxOf a < all.idxOf b

/-! ## Lists without repetition -/

/-- A value at the end of a list is left out if it was there before. -/
theorem distinct_concat (xs : List κ) (x : κ) :
    distinct (xs ++ [x]) = if x ∈ distinct xs then distinct xs else distinct xs ++ [x] := by
  rw [distinct, List.foldl_append]
  rfl

/-- Leaving repetitions out loses no value. -/
@[simp]
theorem mem_distinct {xs : List κ} {a : κ} : a ∈ distinct xs ↔ a ∈ xs := by
  induction xs using List.reverseRecOn with
  | nil => rfl
  | append_singleton xs x ih =>
    rw [distinct_concat]
    split
    · next hx =>
      rw [ih, List.mem_append, List.mem_singleton]
      constructor
      · exact Or.inl
      · rintro (ha | rfl)
        · exact ha
        · exact ih.mp hx
    · rw [List.mem_append, List.mem_append, ih]

/-- A value that is added keeps its place if it was there, and comes last otherwise. -/
theorem firstSeen_distinct (xs : List κ) : FirstSeen (distinct xs) xs := by
  induction xs using List.reverseRecOn with
  | nil => exact ⟨List.nodup_nil, fun a => Iff.rfl, List.Pairwise.nil⟩
  | append_singleton xs x ih =>
    have hkept : (distinct xs).Pairwise fun a b => (xs ++ [x]).idxOf a < (xs ++ [x]).idxOf b := by
      refine ih.ordered.imp_of_mem fun ha hb hlt => ?_
      rwa [List.idxOf_append_of_mem (mem_distinct.mp ha),
        List.idxOf_append_of_mem (mem_distinct.mp hb)]
    refine ⟨?_, fun a => mem_distinct, ?_⟩
    · rw [distinct_concat]
      split
      · exact ih.nodup
      · next hx => exact List.concat_eq_append ▸ List.Nodup.concat hx ih.nodup
    · rw [distinct_concat]
      split
      · exact hkept
      · next hx =>
        rw [List.pairwise_append]
        refine ⟨hkept, List.pairwise_singleton _ _, fun a ha b hb => ?_⟩
        obtain rfl := List.mem_singleton.mp hb
        have hmem := mem_distinct.mp ha
        rw [List.idxOf_append_of_mem hmem,
          List.idxOf_append_of_notMem fun hb => hx (mem_distinct.mpr hb)]
        have := List.idxOf_lt_length_of_mem hmem
        omega

/-! ## Groups -/

namespace Grouping

/-- A value of a known key is added to the group of that key. -/
theorem pushGroup_of_mem {keys : List κ} (hnodup : keys.Nodup) (group : κ → List α) {key : κ}
    (hkey : key ∈ keys) (value : α) :
    pushGroup key value (keys.map fun k => (k, group k)) =
      keys.map fun k => (k, if k = key then group k ++ [value] else group k) := by
  induction keys with
  | nil => simp at hkey
  | cons k keys ih =>
    obtain ⟨hk, hnodup⟩ := List.nodup_cons.mp hnodup
    by_cases heq : k = key
    · have hothers : keys.map (fun k => (k, if k = key then group k ++ [value] else group k)) =
          keys.map fun k => (k, group k) := by
        refine List.map_congr_left fun j hj => ?_
        rw [if_neg]
        rintro rfl
        exact hk (heq ▸ hj)
      simp [pushGroup, heq, hothers]
    · have hlater : key ∈ keys := (List.mem_cons.mp hkey).resolve_left (Ne.symm heq)
      simp [pushGroup, heq, ih hnodup hlater]

/-- A value of a new key opens a group behind the others. -/
theorem pushGroup_of_not_mem {keys : List κ} (group : κ → List α) {key : κ} (hkey : key ∉ keys)
    (value : α) :
    pushGroup key value (keys.map fun k => (k, group k)) =
      keys.map (fun k => (k, group k)) ++ [(key, [value])] := by
  induction keys with
  | nil => rfl
  | cons k keys ih =>
    rw [List.mem_cons, not_or] at hkey
    simp [pushGroup, Ne.symm hkey.1, ih hkey.2]

/-- One more value at the end of a list is pushed last. -/
theorem ofList_concat (key : α → κ) (values : List α) (value : α) :
    ofList key (values ++ [value]) = (ofList key values).push (key value) value := by
  rw [ofList, List.foldl_append]
  rfl

/-- A grouping has one group for each key, in order of first arrival, with all values of the key in
their order. -/
theorem groups_ofList (key : α → κ) (values : List α) :
    (ofList key values).groups =
      (distinct (values.map key)).map fun k => (k, values.filter fun v => key v = k) := by
  induction values using List.reverseRecOn with
  | nil => rfl
  | append_singleton values value ih =>
    have hfilter (k : κ) : (values ++ [value]).filter (fun v => key v = k) =
        if k = key value then values.filter (fun v => key v = k) ++ [value]
        else values.filter fun v => key v = k := by
      by_cases hk : k = key value
      · simp [hk]
      · simp [hk, Ne.symm hk]
    simp only [ofList_concat, push, ih, List.map_append, List.map_singleton, distinct_concat,
      hfilter]
    split
    · next hmem => rw [pushGroup_of_mem (firstSeen_distinct _).nodup _ hmem]
    · next hnew =>
      have hnone : values.filter (fun v => key v = key value) = [] := by
        refine List.filter_eq_nil_iff.mpr fun v hv heq => hnew ?_
        rw [mem_distinct, ← of_decide_eq_true heq]
        exact List.mem_map_of_mem hv
      have hothers : (distinct (values.map key)).map (fun k =>
          (k, if k = key value then values.filter (fun v => key v = k) ++ [value]
            else values.filter fun v => key v = k)) =
          (distinct (values.map key)).map fun k => (k, values.filter fun v => key v = k) := by
        refine List.map_congr_left fun k hk => ?_
        rw [if_neg]
        rintro rfl
        exact hnew hk
      rw [pushGroup_of_not_mem _ hnew, List.map_append, hothers]
      simp [hnone]

/-- The group of a key holds the values of that key; a key without values has no group. -/
theorem get?_ofList (key : α → κ) (values : List α) (k : κ) :
    (ofList key values).get? k =
      if values.filter (fun v => key v = k) = [] then none
      else some (values.filter fun v => key v = k) := by
  rw [get?, groups_ofList]
  split
  · next hnone =>
    rw [List.lookup_eq_none_iff]
    intro entry hentry
    obtain ⟨j, hj, rfl⟩ := List.mem_map.mp hentry
    obtain ⟨v, hv, rfl⟩ := List.mem_map.mp (mem_distinct.mp hj)
    rw [bne_iff_ne]
    rintro rfl
    exact List.filter_eq_nil_iff.mp hnone v hv (by simp)
  · next hsome =>
    obtain ⟨v, hv, hk⟩ : ∃ v ∈ values, key v = k := by
      by_contra hnone
      refine hsome (List.filter_eq_nil_iff.mpr fun v hv heq => hnone ⟨v, hv, by simpa using heq⟩)
    have hmem : k ∈ distinct (values.map key) := by
      rw [mem_distinct, ← hk]
      exact List.mem_map_of_mem hv
    exact List.lookup_graph (fun k => values.filter fun v => key v = k) hmem

end Grouping

end NearMiss
