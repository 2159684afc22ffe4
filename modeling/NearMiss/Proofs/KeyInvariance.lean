import NearMiss.Proofs.Elision
import Mathlib.Logic.Relation

/-!
# What a key leaves out

A key is made of the types of a declaration, in order and without their markers. It does not tell
how the method, its parameters and its results are named, whether a result has a name at all, or
which markers stand before a type. Markers are taken off in a fixed order, all stars and then one
`...`, so stars can be added before any type but `...` only before a type that begins with no
marker. What these changes leave alone is all that a key tells: declarations with one key differ by
nothing else, as long as every type is more than its markers.
-/

namespace NearMiss

open Text

/-! ## Adding and removing markers -/

/-- Markers are put before a written type. -/
inductive AddsMarkers : List Char → List Char → Prop
  /-- Stars can stand before any type. -/
  | stars (count : Nat) (written : List Char) :
      AddsMarkers written (List.replicate count '*' ++ written)
  /-- The variadic marker stands before a type that begins with no marker. -/
  | dots {written : List Char} (hbare : StartsBare written) :
      AddsMarkers written (['.', '.', '.'] ++ written)

/-- One written type is made from another by adding and removing markers. -/
def SameUpToMarkers : List Char → List Char → Prop :=
  Relation.EqvGen AddsMarkers

/-- A written type that is nothing but markers. -/
def MarkersOnly (written : List Char) : Prop :=
  ∃ stars isVariadic, written = markers stars isVariadic

namespace Param

/-- The type of a parameter is the written type without its markers. -/
theorem HasType.unmarked_eq {p : Param} {written : List Char} (h : p.HasType written) :
    unmarked written = p.type := by
  have hnameless : HasType { p with name := none } written := ⟨h.split, h.bare⟩
  have heq : { p with name := none } = ofWritten none written := hnameless.eq_ofWritten rfl
  exact (congrArg Param.type heq).symm

/-- A text that begins with no marker is its own type. -/
theorem unmarked_of_startsBare {written : List Char} (hbare : StartsBare written) :
    unmarked written = String.ofList written := by
  have htype : HasType ⟨none, String.ofList written, false, false⟩ written :=
    ⟨⟨0, by simp [markers], rfl⟩, fun _ => by simpa using hbare⟩
  exact htype.unmarked_eq

/-- Three dots in front of a type are a marker. -/
theorem unmarked_dots_append (written : List Char) :
    unmarked (['.', '.', '.'] ++ written) = String.ofList written := by
  have htype : HasType ⟨none, String.ofList written, true, false⟩ (['.', '.', '.'] ++ written) :=
    ⟨⟨0, by simp [markers], rfl⟩, by simp⟩
  exact htype.unmarked_eq

/-- Stars before a type do not change it. -/
theorem unmarked_stars_append (count : Nat) (written : List Char) :
    unmarked (List.replicate count '*' ++ written) = unmarked written := by
  obtain ⟨stars, rest, rfl, hrest⟩ := exists_stars_append written
  rw [← List.append_assoc, List.replicate_append_replicate, unmarked, unmarked,
    ofWritten_stars_append hrest, ofWritten_stars_append hrest]

/-- Markers that are added are taken off again. -/
theorem unmarked_eq_of_addsMarkers {written marked : List Char}
    (h : AddsMarkers written marked) : unmarked written = unmarked marked := by
  cases h with
  | stars count => exact (unmarked_stars_append count written).symm
  | dots hbare => rw [unmarked_of_startsBare hbare, unmarked_dots_append]

/-- A written type can be brought to a form that depends on its unmarked type alone. The variadic
marker stays where the type behind it begins with a marker, since it could not be put there. -/
theorem sameUpToMarkers_unmarked (written : List Char) :
    let type := (unmarked written).toList
    SameUpToMarkers written
      (if StartsBare type then type else ['.', '.', '.'] ++ type) := by
  intro type
  have htype := hasType_ofWritten none written
  have hbare : (ofWritten none written).isVariadic = false → StartsBare type := htype.bare
  obtain ⟨stars, hsplit, -⟩ := htype.split
  change written = _ ++ type at hsplit
  -- The stars come off first, whatever stands behind them.
  have hstars (rest : List Char) (hrest : written = List.replicate stars '*' ++ rest) :
      SameUpToMarkers written rest := by
    rw [hrest]
    exact .symm _ _ (.rel _ _ (.stars stars rest))
  cases hvariadic : (ofWritten none written).isVariadic with
  | false =>
    rw [if_pos (hbare hvariadic)]
    refine hstars type ?_
    rw [hvariadic] at hsplit
    simpa [markers] using hsplit
  | true =>
    have hdots : SameUpToMarkers written (['.', '.', '.'] ++ type) := by
      refine hstars _ ?_
      rw [hvariadic] at hsplit
      simpa [markers] using hsplit
    split
    · next hbare => exact .trans _ _ _ hdots (.symm _ _ (.rel _ _ (.dots hbare)))
    · exact hdots

/-- Written types are made from each other by adding and removing markers exactly if they are the
same without markers. -/
theorem sameUpToMarkers_iff {written written' : List Char} :
    SameUpToMarkers written written' ↔ unmarked written = unmarked written' := by
  constructor
  · intro h
    induction h with
    | rel _ _ hadds => exact unmarked_eq_of_addsMarkers hadds
    | refl => rfl
    | symm _ _ _ ih => exact ih.symm
    | trans _ _ _ _ _ ih ih' => exact ih.trans ih'
  · intro heq
    have hform := sameUpToMarkers_unmarked written
    rw [heq] at hform
    exact .trans _ _ _ hform (.symm _ _ (sameUpToMarkers_unmarked written'))

/-- A star before the variadic marker can be added, but not one behind it. -/
example : SameUpToMarkers "*...T".toList "T".toList ∧
    ¬SameUpToMarkers "...*T".toList "T".toList := by
  rw [sameUpToMarkers_iff, sameUpToMarkers_iff]
  decide

/-- Lists of types are the same up to markers if their types are without them. -/
theorem forall₂_sameUpToMarkers_iff {types types' : List (List Char)} :
    List.Forall₂ SameUpToMarkers types types' ↔ types.map unmarked = types'.map unmarked := by
  have hsame : SameUpToMarkers = fun t t' => unmarked t = unmarked t' := by
    funext t t'
    exact propext sameUpToMarkers_iff
  rw [hsame, ← List.forall₂_map_right_iff, ← List.forall₂_map_left_iff, List.forall₂_eq_eq_eq]

/-- Nothing is left of markers alone. -/
theorem markersOnly_iff {written : List Char} : MarkersOnly written ↔ unmarked written = "" := by
  constructor
  · rintro ⟨stars, isVariadic, rfl⟩
    have hbare : StartsBare [] := by decide
    have htype : HasType ⟨none, "", isVariadic, decide (0 < stars)⟩ (markers stars isVariadic) :=
      ⟨⟨stars, by simp, rfl⟩, fun _ => hbare⟩
    exact htype.unmarked_eq
  · intro hempty
    obtain ⟨stars, hsplit, -⟩ := (hasType_ofWritten none written).split
    have htype : (ofWritten none written).type = "" := hempty
    rw [htype, String.toList_empty, List.append_nil] at hsplit
    exact ⟨stars, _, hsplit⟩

instance (written : List Char) : Decidable (MarkersOnly written) :=
  decidable_of_iff _ markersOnly_iff.symm

/-- A type that is more than its markers can be told from its neighbours in a key. -/
theorem isKeyType_unmarked {written : List Char} (hpiece : IsPiece written)
    (hmore : ¬MarkersOnly written) : Method.IsKeyType (unmarked written).toList := by
  obtain ⟨stars, hsplit, -⟩ := (hasType_ofWritten none written).split
  have hdepth := (markers_plain stars (ofWritten none written).isVariadic).parenFree.depth_eq_zero
  have hbalanced := hpiece.balanced
  have hcomma := hpiece.noOuterComma
  rw [hsplit] at hbalanced hcomma
  refine ⟨?_, hbalanced.of_append hdepth, hcomma.of_append hdepth⟩
  rw [markersOnly_iff] at hmore
  simpa using hmore

end Param

/-! ## Declarations with named parameters -/

/-- A result: a name with its type, or a type without blanks alone. -/
inductive TypedResult where
  /-- A type alone. -/
  | bare (type : RawType) (blankFree : BlankFree type.text)
  /-- A name with a type. -/
  | named (entry : TypedName)

namespace TypedResult

/-- The written type of the result. -/
def type : TypedResult → RawType
  | bare type _ => type
  | named entry => entry.type

/-- The result as it is written. -/
def text : TypedResult → List Char
  | bare type _ => type.text
  | named entry => entry.text

/-- The parameter that is read from it. -/
def param : TypedResult → Param
  | bare type _ => Param.ofWritten none type.text
  | named entry => entry.param

/-- The entry of a result is not empty. -/
theorem text_ne_nil (r : TypedResult) : r.text ≠ [] := by
  cases r with
  | bare type _ => exact type.ne_nil
  | named entry => exact entry.text_ne_nil

/-- The entry of a result is an entry of a list. -/
theorem text_isPiece (r : TypedResult) : Param.IsPiece r.text := by
  cases r with
  | bare type _ => exact type.isPiece
  | named entry => exact entry.text_isPiece

/-- The entry of a result declares that result. -/
theorem declared_text (r : TypedResult) (next : List Char) :
    Param.declared false next r.text = r.param := by
  cases r with
  | bare type hfree => exact Param.declared_word hfree next
  | named entry =>
    rw [Param.declared, text, entry.resolve_text]
    rfl

/-- The type of a result is what is left without its markers. -/
theorem type_param (r : TypedResult) : r.param.type = Param.unmarked r.type.text := by
  cases r with
  | bare type _ => rfl
  | named entry => rfl

/-- A list of results is read as their parameters. -/
theorem readList_of_lists {results : List TypedResult} {group : List Char}
    (h : Param.Lists (results.map text) group) :
    Param.readList false group = results.map param :=
  Param.readList_of_lists h (fun r _ => r.text_isPiece) (fun r _ => r.text_ne_nil)
    fun r _ next => r.declared_text next

end TypedResult

/-- A declaration whose parameters all have names and whose results stand in parens. -/
structure Signature where
  /-- The name of the method. -/
  name : List Char
  /-- The parameters. -/
  params : List TypedName
  /-- The results. -/
  results : List TypedResult
  /-- The name has no parens. -/
  name_parenFree : ParenFree name

namespace Signature

/-- The written types of the parameters. -/
def paramTypes (s : Signature) : List (List Char) :=
  s.params.map (·.type.text)

/-- The written types of the results. -/
def resultTypes (s : Signature) : List (List Char) :=
  s.results.map (·.type.text)

/-- The texts that state the declaration, with any blanks around the commas and before the results,
and with or without a comma at the end of a list. -/
inductive Writes (s : Signature) : List Char → Prop
  /-- The name, the parameters in parens and the results in parens. -/
  | text {params gap results : List Char} (hparams : Param.Lists (s.params.map (·.text)) params)
      (hgap : AllBlank gap) (hresults : Param.Lists (s.results.map (·.text)) results) :
      Writes s (s.name ++ '(' :: (params ++ ')' :: (gap ++ '(' :: (results ++ [')']))))

/-- Two declarations have the same types up to markers. The name of the method, the names of the
parameters and the names of the results do not matter, nor does it matter which results have one. -/
structure Alike (s s' : Signature) : Prop where
  /-- The parameters have the same types up to markers. -/
  params : List.Forall₂ SameUpToMarkers s.paramTypes s'.paramTypes
  /-- The results have the same types up to markers. -/
  results : List.Forall₂ SameUpToMarkers s.resultTypes s'.resultTypes

/-- Every type of the declaration is more than its markers. -/
def StatesTypes (s : Signature) : Prop :=
  ∀ written ∈ s.paramTypes ++ s.resultTypes, ¬MarkersOnly written

instance (s : Signature) : Decidable s.StatesTypes :=
  inferInstanceAs (Decidable (∀ written ∈ s.paramTypes ++ s.resultTypes, ¬MarkersOnly written))

/-- Every type of a signature is an entry of a list. -/
theorem isPiece_of_mem {s : Signature} {written : List Char}
    (h : written ∈ s.paramTypes ++ s.resultTypes) : Param.IsPiece written := by
  rcases List.mem_append.mp h with hparam | hresult
  · obtain ⟨e, -, rfl⟩ := List.mem_map.mp hparam
    exact e.type.isPiece
  · obtain ⟨r, -, rfl⟩ := List.mem_map.mp hresult
    exact r.type.isPiece

/-- A declaration is read as its parameters and its results, whatever blanks it is written with. -/
theorem Writes.parse {s : Signature} {text : List Char} (h : s.Writes text) :
    Method.parse (String.ofList text) =
      { signature := String.ofList text
        name := String.ofList (trim s.name)
        params := s.params.map TypedName.param
        returns := s.results.map TypedResult.param } := by
  cases h with
  | @text params gap results hparams hgap hresults =>
    have hinside : Balanced params :=
      hparams.balanced (by simpa using fun e _ => e.text_isPiece.balanced)
    have hbehind : Balanced results :=
      hresults.balanced (by simpa using fun r _ => r.text_isPiece.balanced)
    rw [Method.parse_of_balanced s.name_parenFree hinside,
      Method.dropOuterParens_group hgap hbehind, TypedName.readList_of_lists true hparams,
      TypedResult.readList_of_lists (hresults.blank_append hgap)]

/-- The types that are read are the written ones without their markers. -/
theorem Writes.types_parse {s : Signature} {text : List Char} (h : s.Writes text) :
    (Method.parse (String.ofList text)).types =
      (s.paramTypes.map Param.unmarked, s.resultTypes.map Param.unmarked) := by
  rw [h.parse, Method.types, paramTypes, resultTypes, List.map_map, List.map_map, List.map_map,
    List.map_map]
  refine Prod.ext rfl ?_
  exact List.map_congr_left fun r _ => r.type_param

/-- A method whose types are all stated has them when it is read. -/
theorem Writes.wellTyped_parse {s : Signature} {text : List Char} (h : s.Writes text)
    (hstates : s.StatesTypes) : (Method.parse (String.ofList text)).WellTyped := by
  intro p hp
  have htypes := h.types_parse
  rw [Method.types, Prod.mk.injEq] at htypes
  have hmem : p.type ∈ (s.paramTypes ++ s.resultTypes).map Param.unmarked := by
    rw [List.map_append, ← htypes.1, ← htypes.2, ← List.map_append]
    exact List.mem_map_of_mem hp
  obtain ⟨written, hwritten, hunmarked⟩ := List.mem_map.mp hmem
  rw [← hunmarked]
  exact Param.isKeyType_unmarked (isPiece_of_mem hwritten) (hstates written hwritten)

/-- Signatures are alike if their methods are read with the same types. -/
theorem alike_iff_types_parse_eq {s s' : Signature} {text text' : List Char}
    (h : s.Writes text) (h' : s'.Writes text') :
    s.Alike s' ↔
      (Method.parse (String.ofList text)).types = (Method.parse (String.ofList text')).types := by
  rw [h.types_parse, h'.types_parse, Prod.mk.injEq, ← Param.forall₂_sameUpToMarkers_iff,
    ← Param.forall₂_sameUpToMarkers_iff]
  exact ⟨fun halike => ⟨halike.params, halike.results⟩, fun hboth => ⟨hboth.1, hboth.2⟩⟩

/-- The key of a declaration does not change with the name of the method, the names of parameters
and results, the names that results have or lack, stars before a type, or a variadic marker before a
type that begins with no marker. If every type is more than its markers, every other change of the
types changes the key. -/
theorem key_forgets_names_and_markers {s s' : Signature} {text text' : List Char}
    (hwrites : s.Writes text) (hwrites' : s'.Writes text') :
    let m := Method.parse (String.ofList text)
    let m' := Method.parse (String.ofList text')
    (s.Alike s' → m.key = m'.key) ∧
      (s.StatesTypes → s'.StatesTypes → m.key = m'.key → s.Alike s') := by
  intro m m'
  have halike : s.Alike s' ↔ m.types = m'.types := alike_iff_types_parse_eq hwrites hwrites'
  constructor
  · intro h
    exact Method.key_eq_of_types_eq (halike.mp h)
  · intro hstates hstates' hkey
    have hm : m.WellTyped := hwrites.wellTyped_parse hstates
    have hm' : m'.WellTyped := hwrites'.wellTyped_parse hstates'
    exact halike.mpr (hm.types_eq_of_key_eq hm' hkey)

/-- A method with a pointer, a variadic callback, a named result and one without a name. -/
def scan : Signature where
  name := "Scan".toList
  params :=
    [⟨⟨"root".toList, by decide⟩, .blank, ⟨"*string".toList, by decide, by decide⟩⟩,
      ⟨⟨"visit".toList, by decide⟩, .blank, ⟨"...func(a, b T)".toList, by decide, by decide⟩⟩]
  results :=
    [.named ⟨⟨"n".toList, by decide⟩, .blank, ⟨"uint".toList, by decide, by decide⟩⟩,
      .bare ⟨"*Status".toList, by decide, by decide⟩ (by decide)]
  name_parenFree := by decide

/-- The same types with other names and markers, and with a name for the other result. -/
def each : Signature where
  name := "Each".toList
  params :=
    [⟨⟨"at".toList, by decide⟩, .blank, ⟨"...string".toList, by decide, by decide⟩⟩,
      ⟨⟨"by".toList, by decide⟩, .blank, ⟨"*...func(a, b T)".toList, by decide, by decide⟩⟩]
  results :=
    [.bare ⟨"**uint".toList, by decide, by decide⟩ (by decide),
      .named ⟨⟨"end".toList, by decide⟩, .blank, ⟨"Status".toList, by decide, by decide⟩⟩]
  name_parenFree := by decide

/-- The two have one key, and without its results the second has another. -/
theorem key_forgets_names_and_markers_scan :
    let silent := { each with results := [] }
    let scanText := "Scan(root *string, visit ...func(a, b T)) (n uint, *Status)".toList
    let eachText := "Each(at ...string , by *...func(a, b T),)\n(**uint, end Status)".toList
    let silentText := "Each(at ...string , by *...func(a, b T),)\n()".toList
    let key (text : List Char) := (Method.parse (String.ofList text)).key
    (scan.Writes scanText ∧ each.Writes eachText ∧ silent.Writes silentText) ∧
      (scan.StatesTypes ∧ silent.StatesTypes) ∧
      (scan.Alike each ∧ key scanText = key eachText) ∧
      ¬scan.Alike silent ∧ key scanText ≠ key silentText := by
  intro silent scanText eachText silentText key
  have hscan : scan.Writes scanText :=
    @Writes.text scan _ [' '] _
      (@Param.Lists.more _ [] [] _ _ (by decide) (by decide)
        (@Param.Lists.last _ [' '] [] (by decide) (by decide)))
      (by decide)
      (@Param.Lists.more _ [] [] _ _ (by decide) (by decide)
        (@Param.Lists.last _ [' '] [] (by decide) (by decide)))
  have hparams : Param.Lists (each.params.map (·.text))
      "at ...string , by *...func(a, b T),".toList :=
    @Param.Lists.more _ [] [' '] _ _ (by decide) (by decide)
      (@Param.Lists.more _ [' '] [] _ _ (by decide) (by decide)
        (@Param.Lists.nothing [] (by decide)))
  have hgap : AllBlank ['\n'] := by decide
  have heach : each.Writes eachText :=
    .text hparams hgap
      (@Param.Lists.more _ [] [] _ _ (by decide) (by decide)
        (@Param.Lists.last _ [' '] [] (by decide) (by decide)))
  have hsilent : silent.Writes silentText :=
    @Writes.text silent _ _ _ hparams hgap (.nothing allBlank_nil)
  have hscanTypes : scan.StatesTypes := by decide
  have hsilentTypes : silent.StatesTypes := by decide
  have halike : scan.Alike each :=
    ⟨Param.forall₂_sameUpToMarkers_iff.mpr (by decide),
      Param.forall₂_sameUpToMarkers_iff.mpr (by decide)⟩
  have hnot : ¬scan.Alike silent := fun h => absurd h.results.length_eq (by decide)
  refine ⟨⟨hscan, heach, hsilent⟩, ⟨hscanTypes, hsilentTypes⟩, ⟨halike, ?_⟩, hnot, ?_⟩
  · exact (key_forgets_names_and_markers hscan heach).1 halike
  · intro hkey
    exact hnot ((key_forgets_names_and_markers hscan hsilent).2 hscanTypes hsilentTypes hkey)

end Signature

end NearMiss
