import NearMiss.Proofs.Entry
import NearMiss.Proofs.ShapeKey

/-!
# Parameters without names

A list of single words is ambiguous: each word may be a type, or a name that leaves its type to the
one behind it. It is always read in the second way as far as that goes, so that every word but the
last is a name and the last is the type of all. Such a list has the key of the same types with names
before them exactly if the types are all the same up to their markers, and in particular if there is
only one.
-/

namespace NearMiss

open Text

/-- A word without commas and parens. -/
structure IsWord (s : List Char) : Prop where
  /-- It is not empty. -/
  ne_nil : s ≠ []
  /-- It holds no blank, comma or paren. -/
  plain : Plain s

instance (s : List Char) : Decidable (IsWord s) :=
  decidable_of_iff (s ≠ [] ∧ Plain s) ⟨fun h => ⟨h.1, h.2⟩, fun h => ⟨h.ne_nil, h.plain⟩⟩

/-- A plain text has no outer comma. -/
theorem Plain.noOuterComma {s : List Char} (hs : Plain s) : NoOuterComma s :=
  noOuterComma_of_forall fun c hc => (hs c hc).2.1

/-- A word is an entry of a list. -/
theorem IsWord.isPiece {s : List Char} (hs : IsWord s) : Param.IsPiece s :=
  ⟨hs.plain.blankFree.trimmed, hs.plain.parenFree.balanced, hs.plain.noOuterComma⟩

namespace Param

/-- A written type without its markers. -/
def unmarked (written : List Char) : String :=
  (ofWritten none written).type

/-- A plain type is plain without its markers. -/
theorem plain_unmarked {written : List Char} (hwritten : Plain written) :
    Plain (unmarked written).toList := by
  obtain ⟨markers, -, hsplit⟩ := exists_markers_append none written
  intro c hc
  refine hwritten c ?_
  rw [hsplit]
  exact List.mem_append_right markers hc

/-- Names before other pieces share the type that the first of these has. -/
theorem resolveAll_names_append {names items : List (List Char)}
    (hnames : ∀ name ∈ names, BlankFree name) (hnext : (resolveAll true items).2 ≠ []) :
    resolveAll true (names ++ items) =
      (names.map (fun name => ofWritten (some name) (resolveAll true items).2) ++
        (resolveAll true items).1, (resolveAll true items).2) := by
  induction names with
  | nil => rfl
  | cons name names ih =>
    -- Each name hands on the type that it was handed, so that the one before it takes the same.
    have hname : BlankFree name := hnames name (by simp)
    rw [List.cons_append, resolveAll, ih fun n hn => hnames n (by simp [hn])]
    simp [resolve, splitWord_eq_self hname, hnext]

/-- Of words alone the last is a type without a name, and the others are names that share it. -/
theorem resolveAll_words {words : List (List Char)} {last : List Char}
    (hwords : ∀ word ∈ words, BlankFree word) (hlast : BlankFree last) (hne : last ≠ []) :
    resolveAll true (words ++ [last]) =
      (words.map (fun word => ofWritten (some word) last) ++ [ofWritten none last], last) := by
  have hsingle : resolveAll true [last] = ([ofWritten none last], last) := by
    simp [resolveAll, resolve, splitWord_eq_self hlast]
  rw [resolveAll_names_append hwords (by rwa [hsingle]), hsingle]

/-- Pieces with a comma and a blank between them are listed. -/
theorem lists_joined (items : List (List Char)) : Lists items (Method.joined items) := by
  induction items with
  | nil => exact .nothing allBlank_nil
  | cons piece items ih =>
    cases items with
    | nil =>
      have hlast : Lists [piece] ([] ++ piece ++ []) := .last allBlank_nil allBlank_nil
      simpa [Method.joined] using hlast
    | cons next items =>
      have hblank : AllBlank [' '] := by decide
      have hmore : Lists (piece :: next :: items)
          ([] ++ piece ++ [] ++ ',' :: ([' '] ++ Method.joined (next :: items))) :=
        .more allBlank_nil allBlank_nil (ih.blank_append hblank)
      rw [Method.joined, List.intercalate_cons_cons]
      simpa [Method.joined] using hmore

end Param

namespace Method

/-- The declaration of a method `F` with the given pieces as its parameters. -/
def listing (items : List (List Char)) : String :=
  String.ofList ('F' :: '(' :: (joined items ++ [')']))

/-- The parameters of such a declaration are read from its pieces. -/
theorem parse_listing {items : List (List Char)} (hitems : ∀ piece ∈ items, Balanced piece) :
    parse (listing items) =
      ⟨listing items, "F", Param.readList true (joined items), []⟩ := by
  have hname : ParenFree ['F'] := by decide
  exact parse_of_balanced hname (balanced_joined hitems) []

/-- Words alone are read as names that share the last word as their type. -/
theorem parse_listing_words {words : List (List Char)} (hne : words ≠ [])
    (hwords : ∀ word ∈ words, IsWord word) :
    parse (listing words) =
      { signature := listing words
        name := "F"
        params := words.dropLast.map
          (fun word => Param.ofWritten (some word) (words.getLast hne)) ++
            [Param.ofWritten none (words.getLast hne)]
        returns := [] } := by
  have hlast : IsWord (words.getLast hne) := hwords _ (List.getLast_mem hne)
  have hpieces : Param.pieces (joined words) = words := by
    refine Param.pieces_of_lists (Param.lists_joined _) (fun p hp => (hwords p hp).isPiece) ?_
    rw [List.getLast?_eq_some_getLast hne, ne_eq, Option.some.injEq]
    exact hlast.ne_nil
  have hresolve : Param.resolveAll true (words.dropLast ++ [words.getLast hne]) = _ :=
    Param.resolveAll_words (fun w hw => (hwords w (List.mem_of_mem_dropLast hw)).plain.blankFree)
      hlast.plain.blankFree hlast.ne_nil
  rw [List.dropLast_append_getLast] at hresolve
  rw [parse_listing fun p hp => (hwords p hp).isPiece.balanced, Param.readList, hpieces, hresolve]

/-- Words behind names are read as the types of these names. -/
theorem parse_listing_named {entries : List (List Char × List Char)}
    (hentries : ∀ e ∈ entries, IsWord e.1 ∧ IsWord e.2) :
    parse (listing (entries.map fun e => e.1 ++ ' ' :: e.2)) =
      { signature := listing (entries.map fun e => e.1 ++ ' ' :: e.2)
        name := "F"
        params := entries.map fun e => Param.ofWritten (some e.1) e.2
        returns := [] } := by
  have hblank : AllBlank [' '] := by decide
  have htext (e : List Char × List Char) : e.1 ++ ' ' :: e.2 = e.1 ++ [' '] ++ e.2 := by simp
  have hpiece : ∀ e ∈ entries, Param.IsPiece (e.1 ++ ' ' :: e.2) := by
    intro e he
    obtain ⟨hname, htype⟩ := hentries e he
    rw [htext]
    exact htype.isPiece.named htype.ne_nil hname.ne_nil hname.plain hblank
  have hdeclared : ∀ e ∈ entries, ∀ next, Param.declared true next (e.1 ++ ' ' :: e.2) =
      Param.ofWritten (some e.1) e.2 := by
    intro e he next
    obtain ⟨hname, htype⟩ := hentries e he
    rw [htext]
    exact Param.declared_named hname.plain.blankFree hblank (by simp) htype.ne_nil
      htype.isPiece.trimmed.head true next
  have hbalanced : ∀ piece ∈ entries.map fun e => e.1 ++ ' ' :: e.2, Balanced piece := by
    intro piece hmem
    obtain ⟨e, he, rfl⟩ := List.mem_map.mp hmem
    exact (hpiece e he).balanced
  rw [parse_listing hbalanced,
    Param.readList_of_lists (Param.lists_joined _) hpiece (by simp) hdeclared]

/-- Words alone have as many times the type of the last of them. -/
theorem map_type_params_words {words : List (List Char)} (hne : words ≠ [])
    (hwords : ∀ word ∈ words, IsWord word) :
    (parse (listing words)).params.map (·.type) =
      words.map fun _ => Param.unmarked (words.getLast hne) := by
  have hsplit := congrArg (List.map fun _ => Param.unmarked (words.getLast hne))
    (List.dropLast_append_getLast hne)
  rw [List.map_append, List.map_singleton] at hsplit
  rw [← hsplit, parse_listing_words hne hwords, List.map_append, List.map_map,
    List.map_singleton]
  rfl

/-- Words behind names have their own types. -/
theorem map_type_params_named {entries : List (List Char × List Char)}
    (hentries : ∀ e ∈ entries, IsWord e.1 ∧ IsWord e.2) :
    (parse (listing (entries.map fun e => e.1 ++ ' ' :: e.2))).params.map (·.type) =
      entries.map fun e => Param.unmarked e.2 := by
  rw [parse_listing_named hentries, List.map_map]
  rfl

/-- Two methods with plain types, at least one parameter each and the same results have the same key
exactly if their parameter types are the same. -/
theorem key_eq_iff_of_plain {m m' : Method} (hparams : m.params ≠ []) (hparams' : m'.params ≠ [])
    (hplain : ∀ type ∈ m.params.map (·.type), Plain type.toList)
    (hplain' : ∀ type ∈ m'.params.map (·.type), Plain type.toList)
    (hreturns : m.returns = m'.returns) :
    m.key = m'.key ↔ m.params.map (·.type) = m'.params.map (·.type) := by
  have hapart {params : List Param} (h : ∀ type ∈ params.map (·.type), Plain type.toList) :
      ∀ t ∈ params.map fun p => p.type.toList, Balanced t ∧ NoOuterComma t := by
    intro t ht
    obtain ⟨p, hp, rfl⟩ := List.mem_map.mp ht
    have htype := h p.type (List.mem_map_of_mem hp)
    exact ⟨htype.parenFree.balanced, htype.noOuterComma⟩
  constructor
  · intro heq
    have hlist := congrArg String.toList heq
    rw [toList_key, toList_key, hreturns, List.cons.injEq, List.append_cancel_right_eq,
      toList_typeList, toList_typeList] at hlist
    exact map_type_eq_of_toList_eq (joined_injective_of_ne_nil (by simpa using hparams)
      (by simpa using hparams') (hapart hplain) (hapart hplain') hlist.2)
  · intro heq
    exact key_eq_of_types_eq (by rw [types, types, heq, hreturns])

/-- A list of types and the same list with names have the same key exactly if the types are all the
same up to their markers. With names each type is read where it stands. Without them every word but
the last is taken for a name, and the last is the type of all. -/
theorem key_bare_eq_named_iff {entries : List (List Char × List Char)} (hne : entries ≠ [])
    (hentries : ∀ e ∈ entries, IsWord e.1 ∧ IsWord e.2) :
    let bare := parse (listing (entries.map (·.2)))
    let named := parse (listing (entries.map fun e => e.1 ++ ' ' :: e.2))
    let last := (entries.getLast hne).2
    named.params = entries.map (fun e => Param.ofWritten (some e.1) e.2) ∧
      bare.params = entries.dropLast.map (fun e => Param.ofWritten (some e.2) last) ++
        [Param.ofWritten none last] ∧
      (bare.key = named.key ↔
        ∀ e ∈ entries, Param.unmarked e.2 = Param.unmarked last) := by
  intro bare named last
  have hplain : ∀ e ∈ entries, Plain (Param.unmarked e.2).toList :=
    fun e he => Param.plain_unmarked (hentries e he).2.plain
  have hwords : ∀ type ∈ entries.map (·.2), IsWord type := by
    intro type hmem
    obtain ⟨e, he, rfl⟩ := List.mem_map.mp hmem
    exact (hentries e he).2
  have hmapne : entries.map (·.2) ≠ [] := by simpa using hne
  have hlast : (entries.map (·.2)).getLast hmapne = last := List.getLast_map hmapne
  have hnamed := parse_listing_named hentries
  have hbare := parse_listing_words hmapne hwords
  have hnamedTypes : named.params.map (·.type) = entries.map fun e => Param.unmarked e.2 :=
    map_type_params_named hentries
  have hbareTypes : bare.params.map (·.type) = entries.map fun _ => Param.unmarked last := by
    have htypes := map_type_params_words hmapne hwords
    rwa [hlast, List.map_map] at htypes
  rw [hlast, ← List.map_dropLast, List.map_map] at hbare
  refine ⟨congrArg Method.params hnamed, congrArg Method.params hbare, ?_⟩
  rw [key_eq_iff_of_plain, hbareTypes, hnamedTypes, List.map_inj_left]
  · exact forall₂_congr fun e _ => eq_comm
  · simp [bare, hbare]
  · simpa [named, hnamed] using hne
  · intro type hmem
    rw [hbareTypes] at hmem
    obtain ⟨e, -, rfl⟩ := List.mem_map.mp hmem
    exact hplain _ (List.getLast_mem hne)
  · intro type hmem
    rw [hnamedTypes] at hmem
    obtain ⟨e, he, rfl⟩ := List.mem_map.mp hmem
    exact hplain e he
  · simp only [bare, named, hbare, hnamed]

/-- With two different types the words without names have the key of the last type twice. -/
theorem key_bare_ne_named_of_two_types :
    IsWord "a".toList ∧ IsWord "int".toList ∧ IsWord "b".toList ∧ IsWord "string".toList ∧
      "a" ≠ "b" ∧ (parse "F(int, string)").key = "(string, string) ()" ∧
      (parse "F(a int, b string)").key = "(int, string) ()" ∧
      (parse "F(int, string)").key ≠ (parse "F(a int, b string)").key := by
  decide

/-- A single type needs no name, and markers do not tell types apart. -/
theorem key_bare_eq_named_iff_instances :
    (∀ e ∈ [("p".toList, "[]byte".toList)], IsWord e.1 ∧ IsWord e.2) ∧
      (∀ e ∈ [("a".toList, "*T".toList), ("b".toList, "...T".toList)],
        IsWord e.1 ∧ IsWord e.2) ∧
      (parse "F([]byte)").key = (parse "F(p []byte)").key ∧
      (parse "F(*T, ...T)").key = (parse "F(a *T, b ...T)").key := by
  have hone : ∀ e ∈ [("p".toList, "[]byte".toList)], IsWord e.1 ∧ IsWord e.2 := by decide
  have htwo : ∀ e ∈ [("a".toList, "*T".toList), ("b".toList, "...T".toList)],
      IsWord e.1 ∧ IsWord e.2 := by decide
  refine ⟨hone, htwo, ?_, ?_⟩
  · exact (key_bare_eq_named_iff (by simp) hone).2.2.mpr (by decide)
  · exact (key_bare_eq_named_iff (by simp) htwo).2.2.mpr (by decide)

end Method

end NearMiss
