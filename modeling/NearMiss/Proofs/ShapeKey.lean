import NearMiss.Proofs.Cut
import NearMiss.Proofs.Matching
import NearMiss.Proofs.Pieces

/-!
# The shape key can be read back

A key is a flat text: the types of the parameters and of the results, joined by commas, each list in
parens. Types may hold commas and parens themselves, but only balanced ones and no outer comma. Then
the paren that closes the parameters and the commas that part the types can be told from those
inside a type, and the key determines both lists of types.
-/

namespace NearMiss

open Text

namespace Method

/-- The ordered types of the parameters and of the results. -/
def types (m : Method) : List String × List String :=
  (m.params.map (·.type), m.returns.map (·.type))

/-- A type that is told from its neighbours in a key. -/
structure IsKeyType (t : List Char) : Prop where
  /-- It is not empty. -/
  ne_nil : t ≠ []
  /-- Its parens are balanced. -/
  balanced : Balanced t
  /-- Its commas stand inside parens. -/
  noOuterComma : NoOuterComma t

instance (t : List Char) : Decidable (IsKeyType t) :=
  decidable_of_iff (t ≠ [] ∧ Balanced t ∧ NoOuterComma t)
    ⟨fun h => ⟨h.1, h.2.1, h.2.2⟩, fun h => ⟨h.ne_nil, h.balanced, h.noOuterComma⟩⟩

/-- All types of the method, of parameters and of results, can be told apart in its key. -/
def WellTyped (m : Method) : Prop :=
  ∀ p ∈ m.params ++ m.returns, IsKeyType p.type.toList

instance (m : Method) : Decidable m.WellTyped :=
  inferInstanceAs (Decidable (∀ p ∈ m.params ++ m.returns, IsKeyType p.type.toList))

/-- Types joined by a comma and a blank. -/
def joined (types : List (List Char)) : List Char :=
  [',', ' '].intercalate types

/-- A list of types is written with the types of the parameters. -/
theorem toList_typeList (params : List Param) :
    (typeList params).toList = joined (params.map fun p => p.type.toList) := by
  rw [typeList, String.toList_intercalate, List.map_map]
  rfl

/-- Balanced types are joined balanced. -/
theorem balanced_joined {types : List (List Char)} (htypes : ∀ t ∈ types, Balanced t) :
    Balanced (joined types) := by
  induction types with
  | nil => exact balanced_nil
  | cons t types ih =>
    have ht := htypes t (by simp)
    have hlater := ih fun u hu => htypes u (by simp [hu])
    cases types with
    | nil => simpa [joined] using ht
    | cons u types =>
      have hcomma : Balanced [',', ' '] := by decide
      rw [joined, List.intercalate_cons_cons]
      exact (ht.append hcomma).append hlater

/-- The segments of joined types are the types, all but the first with the blank before them. -/
theorem segments_joined {t : List Char} {types : List (List Char)}
    (htypes : ∀ u ∈ t :: types, Balanced u ∧ NoOuterComma u) :
    Param.segments 0 (joined (t :: types)) = (t, types.map (' ' :: ·)) := by
  induction types generalizing t with
  | nil =>
    have hcomma := passes_comma_iff.mpr (htypes t (by simp)).2
    have hsegments := Param.segments_append hcomma []
    simpa [joined, Param.segments] using hsegments
  | cons u types ih =>
    obtain ⟨hbalanced, hcomma⟩ := htypes t (by simp)
    have hblank : Param.segments 0 (' ' :: joined (u :: types)) =
        (' ' :: u, types.map (' ' :: ·)) := by
      rw [Param.segments, if_neg (by decide)]
      simp only [turn, Char.reduceEq, if_false, Int.add_zero]
      rw [ih fun v hv => htypes v (List.mem_cons_of_mem t hv)]
    have hjoined : joined (t :: u :: types) = t ++ ',' :: ' ' :: joined (u :: types) := by
      rw [joined, List.intercalate_cons_cons, List.append_assoc]
      rfl
    rw [hjoined, Param.segments_append (passes_comma_iff.mpr hcomma), hbalanced.total,
      Int.add_zero, Param.segments_comma, hblank, List.append_nil, List.map_cons]

/-- Joined types determine the types if there are any. -/
theorem joined_injective_of_ne_nil {types types' : List (List Char)} (hne : types ≠ [])
    (hne' : types' ≠ []) (htypes : ∀ t ∈ types, Balanced t ∧ NoOuterComma t)
    (htypes' : ∀ t ∈ types', Balanced t ∧ NoOuterComma t)
    (heq : joined types = joined types') : types = types' := by
  obtain ⟨t, types, rfl⟩ := List.exists_cons_of_ne_nil hne
  obtain ⟨t', types', rfl⟩ := List.exists_cons_of_ne_nil hne'
  have hsegments := segments_joined htypes
  rw [heq, segments_joined htypes', Prod.mk.injEq] at hsegments
  obtain ⟨rfl, hlater⟩ := hsegments
  rw [List.map_inj_right fun u v huv => (List.cons.inj huv).2] at hlater
  rw [hlater]

/-- Joined types that are not empty determine the types. -/
theorem joined_injective {types types' : List (List Char)}
    (htypes : ∀ t ∈ types, IsKeyType t) (htypes' : ∀ t ∈ types', IsKeyType t)
    (heq : joined types = joined types') : types = types' := by
  have hne {t : List Char} {ts : List (List Char)} (ht : t ≠ []) : joined (t :: ts) ≠ [] := by
    cases ts with
    | nil => simpa [joined] using ht
    | cons u ts => simp [joined, List.intercalate_cons_cons]
  cases types with
  | nil =>
    cases types' with
    | nil => rfl
    | cons t' types' => exact absurd heq.symm (hne (htypes' t' (by simp)).ne_nil)
  | cons t types =>
    cases types' with
    | nil => exact absurd heq (hne (htypes t (by simp)).ne_nil)
    | cons t' types' =>
      exact joined_injective_of_ne_nil (by simp) (by simp)
        (fun u hu => ⟨(htypes u hu).balanced, (htypes u hu).noOuterComma⟩)
        (fun u hu => ⟨(htypes' u hu).balanced, (htypes' u hu).noOuterComma⟩) heq

/-- The characters of the types determine the types. -/
theorem map_type_eq_of_toList_eq {params params' : List Param}
    (heq : params.map (fun p => p.type.toList) = params'.map fun p => p.type.toList) :
    params.map (·.type) = params'.map (·.type) := by
  have hmap (ps : List Param) :
      ps.map (fun p => p.type.toList) = (ps.map (·.type)).map String.toList := by
    rw [List.map_map]
    rfl
  rw [hmap, hmap, List.map_inj_right fun s t => String.toList_inj.mp] at heq
  exact heq

/-- Lists of types that are written alike have the same types. -/
theorem map_type_eq_of_typeList_eq {params params' : List Param}
    (hparams : ∀ p ∈ params, IsKeyType p.type.toList)
    (hparams' : ∀ p ∈ params', IsKeyType p.type.toList)
    (heq : (typeList params).toList = (typeList params').toList) :
    params.map (·.type) = params'.map (·.type) := by
  rw [toList_typeList, toList_typeList] at heq
  exact map_type_eq_of_toList_eq
    (joined_injective (by simpa using hparams) (by simpa using hparams') heq)

/-- A key has two lists of types in parentheses. -/
theorem toList_key (m : Method) :
    m.key.toList = '(' :: ((typeList m.params).toList ++ ')' :: ' ' :: '(' ::
      ((typeList m.returns).toList ++ [')'])) := by
  simp [key]

/-- The parameters of a key end at the paren that closes its first group. -/
theorem WellTyped.cutClose?_key {m : Method} (hm : m.WellTyped) :
    cutClose? 1 m.key.toList.tail =
      some ((typeList m.params).toList, ' ' :: '(' :: ((typeList m.returns).toList ++ [')'])) := by
  rw [toList_key, List.tail_cons]
  refine cutClose?_balanced ?_ _
  rw [toList_typeList]
  refine balanced_joined fun t ht => ?_
  obtain ⟨p, hp, rfl⟩ := List.mem_map.mp ht
  exact (hm p (List.mem_append_left _ hp)).balanced

/-- Methods with one key have the same types. -/
theorem WellTyped.types_eq_of_key_eq {m m' : Method} (hm : m.WellTyped) (hm' : m'.WellTyped)
    (heq : m.key = m'.key) : m.types = m'.types := by
  have hcut := hm.cutClose?_key
  rw [heq, hm'.cutClose?_key, Option.some.injEq, Prod.mk.injEq] at hcut
  obtain ⟨hparams, hrest⟩ := hcut
  have hreturns : (typeList m'.returns).toList = (typeList m.returns).toList := by
    simpa using hrest
  rw [types, types,
    map_type_eq_of_typeList_eq (fun p hp => hm p (List.mem_append_left _ hp))
      (fun p hp => hm' p (List.mem_append_left _ hp)) hparams.symm,
    map_type_eq_of_typeList_eq (fun p hp => hm p (List.mem_append_right _ hp))
      (fun p hp => hm' p (List.mem_append_right _ hp)) hreturns.symm]

/-- The key is made of the types alone. -/
theorem key_eq_of_types_eq {m m' : Method} (heq : m.types = m'.types) : m.key = m'.key := by
  rw [types, types, Prod.mk.injEq] at heq
  rw [key, key, typeList, typeList, typeList, typeList, heq.1, heq.2]

/-- Two methods have the same key exactly if they have the same ordered parameter types and the same
ordered result types, so that a bucket of the index never holds two different shapes. -/
theorem key_eq_iff_types_eq :
    (∀ m m' : Method, m.WellTyped → m'.WellTyped → (m.key = m'.key ↔ m.types = m'.types)) ∧
      ∀ (corpus : List InterfaceMethod) (key : String) (bucket : List InterfaceMethod),
        (∀ entry ∈ corpus, entry.WellTyped) → (Index.build corpus).get? key = some bucket →
          ∀ entry ∈ bucket, ∀ other ∈ bucket, entry.types = other.types := by
  refine ⟨fun m m' hm hm' => ⟨hm.types_eq_of_key_eq hm', key_eq_of_types_eq⟩, ?_⟩
  intro corpus key bucket hcorpus hbucket entry hentry other hother
  rw [Index.get?, Index.build, Grouping.get?_ofList] at hbucket
  split at hbucket
  · simp at hbucket
  · obtain rfl := Option.some.inj hbucket
    obtain ⟨hmem, hkey⟩ := List.mem_filter.mp hentry
    obtain ⟨hmem', hkey'⟩ := List.mem_filter.mp hother
    have heq : entry.key = other.key :=
      (of_decide_eq_true hkey).trans (of_decide_eq_true hkey').symm
    exact (hcorpus entry hmem).types_eq_of_key_eq (hcorpus other hmem') heq

/-- An entry with a parameter type that holds the text between the two groups of a key. -/
def foldEntry (params returns : List String) : InterfaceMethod where
  signature := ""
  name := "Fold"
  params := ("func(a) (b, c)" :: params).map fun type => ⟨none, type, false, false⟩
  returns := returns.map fun type => ⟨none, type, false, false⟩
  interface := "Folder"
  package := "seq"

/-- A type that moves from the parameters to the results changes the key and the bucket. -/
theorem key_foldEntry :
    let entry := foldEntry ["int"] ["error"]
    let moved := foldEntry [] ["int", "error"]
    let named := { entry with name := "Reduce" }
    entry.WellTyped ∧ moved.WellTyped ∧ entry.key ≠ moved.key ∧
      (Index.build [entry, moved, named]).get? entry.key = some [entry, named] ∧
      entry.types = named.types := by
  intro entry moved named
  have hentry : entry.WellTyped := by decide
  have hmoved : moved.WellTyped := by decide
  have hcorpus : ∀ e ∈ [entry, moved, named], e.WellTyped := by decide
  have hbucket : (Index.build [entry, moved, named]).get? entry.key = some [entry, named] := by
    decide +kernel
  refine ⟨hentry, hmoved, fun hkey => ?_, hbucket, ?_⟩
  · have htypes := (key_eq_iff_types_eq.1 _ _ hentry hmoved).mp hkey
    exact absurd htypes (by decide)
  · exact key_eq_iff_types_eq.2 _ _ _ hcorpus hbucket entry (by simp) named (by simp)

end Method

end NearMiss
