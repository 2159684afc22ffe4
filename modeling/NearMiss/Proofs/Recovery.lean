import NearMiss.Proofs.Entry
import NearMiss.Proofs.Joining

/-!
# Pieces and the parameters read from them

Any text is read, whatever parens and commas it holds, and each of its pieces gives one parameter. A
piece is a word, or nothing, or a name with blanks and a type behind it. In the last case it is
found again in its parameter: the name, the blanks, the markers that the flags tell, and the type.
A piece of one word is found again in the same way, as a type without a name, unless types are
shared and the parameter behind it has one: then that parameter is repeated under the name of the
piece.
-/

namespace NearMiss

open Text

/-- A text that is not a single word has a first word, which ends at a blank. -/
theorem Text.exists_word_append_blank {s : List Char} (hs : ¬BlankFree s) :
    ∃ word blank after, BlankFree word ∧ isBlank blank = true ∧ s = word ++ blank :: after := by
  obtain ⟨c, hc, hblank⟩ : ∃ c ∈ s, isBlank c = true := by
    simpa [BlankFree] using hs
  obtain ⟨blank, hfind⟩ := Option.isSome_iff_exists.mp (List.find?_isSome.mpr ⟨c, hc, hblank⟩)
  obtain ⟨hfirst, word, after, hsplit, hword⟩ := List.find?_eq_some_iff_append.mp hfind
  exact ⟨word, blank, after, fun d hd => by simpa using hword d hd, hfirst, hsplit⟩

/-- A trimmed text of more than one word is a word, blanks, and the rest. -/
theorem Text.Trimmed.exists_word_append {s : List Char} (hs : Trimmed s) (hfree : ¬BlankFree s) :
    ∃ word gap rest, BlankFree word ∧ AllBlank gap ∧ gap ≠ [] ∧ rest ≠ [] ∧
      (∀ c ∈ rest.head?, isBlank c = false) ∧ s = word ++ gap ++ rest := by
  obtain ⟨word, blank, after, hword, hblank, rfl⟩ := exists_word_append_blank hfree
  obtain ⟨more, hmore, hafter⟩ := exists_append_trimLeft after
  have hgap : AllBlank (blank :: more) := by
    rintro c (_ | ⟨_, hc⟩)
    · exact hblank
    · exact hmore c hc
  refine ⟨word, blank :: more, trimLeft after, hword, hgap, by simp, ?_,
    isBlank_head?_trimLeft after, ?_⟩
  · -- Otherwise the text would end in the blanks.
    intro hnil
    rw [hnil, List.append_nil] at hafter
    have hlast := List.getLast?_eq_some_getLast (List.cons_ne_nil blank more)
    have hend := hs.last ((blank :: more).getLast (List.cons_ne_nil blank more))
    rw [hafter, List.getLast?_append_of_ne_nil word (List.cons_ne_nil blank more)] at hend
    simpa [hend hlast] using hgap _ (List.mem_of_getLast? hlast)
  · rw [List.append_assoc, List.cons_append, ← hafter]

namespace Param

/-- Whether the written type of a parameter is not empty: there is a marker, or a type. -/
def isTyped (p : Param) : Bool :=
  p.isPointer || p.isVariadic || p.type != ""

/-- A parameter has a type if something is written for it. -/
theorem HasType.isTyped_iff {p : Param} {written : List Char} (h : p.HasType written) :
    p.isTyped = true ↔ written ≠ [] := by
  obtain ⟨stars, rfl, hpointer⟩ := h.split
  rw [isTyped, hpointer]
  cases p.isVariadic <;> cases stars <;> simp [markers]

/-- A piece spells a parameter: it is the written type, with the name and blanks before it if there
is a name. -/
inductive Spelled (p : Param) : List Char → Prop
  /-- A type without a name. -/
  | bare {written : List Char} (hname : p.name = none) (htype : p.HasType written) :
      Spelled p written
  /-- A name with a type. -/
  | named {name : String} {gap written : List Char} (hname : p.name = some name)
      (hgap : AllBlank gap) (hne : gap ≠ []) (htype : p.HasType written) :
      Spelled p (name.toList ++ gap ++ written)

/-- Where types are shared, a piece of one word takes the type behind it if there is one. -/
theorem resolve_word {piece : List Char} (hpiece : BlankFree piece) (shareTypes : Bool)
    (next : List Char) :
    resolve shareTypes next piece =
      if shareTypes = true ∧ next ≠ [] then (some piece, next) else (none, piece) := by
  cases shareTypes <;> cases next <;> simp [resolve, splitWord_eq_self hpiece]

/-- Every parameter is read from the piece at its place and the written type behind it. -/
theorem getElem?_resolveAll (shareTypes : Bool) (items : List (List Char)) (k : Nat) :
    (resolveAll shareTypes items).1[k]? =
      items[k]?.map (declared shareTypes (resolveAll shareTypes (items.drop (k + 1))).2) := by
  induction items generalizing k with
  | nil => rfl
  | cons piece later ih =>
    rw [resolveAll_cons]
    cases k with
    | zero => rfl
    | succ k => simpa using ih k

/-- Every entry is resolved to one parameter. -/
theorem length_resolveAll (shareTypes : Bool) (items : List (List Char)) :
    (resolveAll shareTypes items).1.length = items.length := by
  induction items with
  | nil => rfl
  | cons piece later ih => rw [resolveAll_cons, List.length_cons, List.length_cons, ih]

/-- The parameter at a place is the first of those that are read from there on. -/
theorem head?_resolveAll_drop (shareTypes : Bool) (items : List (List Char)) (k : Nat) :
    (resolveAll shareTypes (items.drop k)).1.head? = (resolveAll shareTypes items).1[k]? := by
  rw [List.head?_eq_getElem?, getElem?_resolveAll, getElem?_resolveAll, List.getElem?_drop,
    List.drop_drop]
  rfl

/-- Nothing is handed on where there is no parameter. -/
theorem exists_head_resolveAll {shareTypes : Bool} {items : List (List Char)}
    (h : (resolveAll shareTypes items).2 ≠ []) :
    ∃ p, (resolveAll shareTypes items).1.head? = some p := by
  cases items with
  | nil => exact absurd rfl h
  | cons piece later => exact ⟨_, rfl⟩

/-- What is handed on to the piece before is the written type of the first parameter. -/
theorem hasType_head_resolveAll {shareTypes : Bool} {items : List (List Char)} {p : Param}
    (h : (resolveAll shareTypes items).1.head? = some p) :
    p.HasType (resolveAll shareTypes items).2 := by
  cases items with
  | nil => simp [resolveAll] at h
  | cons piece later =>
    rw [resolveAll_cons, List.head?_cons, Option.some.injEq] at h
    rw [← h, resolveAll_cons]
    exact hasType_ofWritten _ _

/-- A piece of more than one word spells its parameter, whatever follows it. -/
theorem spelled_declared_of_not_blankFree {piece : List Char} (hpiece : Trimmed piece)
    (hfree : ¬BlankFree piece) (shareTypes : Bool) (next : List Char) :
    (declared shareTypes next piece).Spelled piece := by
  obtain ⟨name, gap, written, hname, hgap, hgapne, hne, hhead, rfl⟩ :=
    hpiece.exists_word_append hfree
  rw [declared_named hname hgap hgapne hne hhead]
  have hspelled := Spelled.named (p := ofWritten (some name) written) rfl hgap hgapne
    (hasType_ofWritten _ _)
  rwa [String.toList_ofList] at hspelled

/-- A piece of one word spells its parameter if there is no type to be taken. -/
theorem spelled_declared_of_blankFree {piece : List Char} (hpiece : BlankFree piece)
    {shareTypes : Bool} {next : List Char} (hnone : ¬(shareTypes = true ∧ next ≠ [])) :
    (declared shareTypes next piece).Spelled piece := by
  rw [declared, resolve_word hpiece, if_neg hnone]
  exact .bare rfl (hasType_ofWritten _ _)

/-- A piece of one word repeats the parameter behind it if that has a type. -/
theorem declared_eq_next {piece : List Char} (hpiece : BlankFree piece) {next : Param}
    {written : List Char} (hnext : next.HasType written) (hne : written ≠ []) :
    declared true written piece = { next with name := some (String.ofList piece) } := by
  have hrenamed : Param.HasType { next with name := some (String.ofList piece) } written :=
    ⟨hnext.split, hnext.bare⟩
  rw [declared, resolve_word hpiece, if_pos ⟨rfl, hne⟩]
  exact (hrenamed.eq_ofWritten rfl).symm

/-- The name of a piece, if it has one, is its first word. -/
theorem name_resolve {shareTypes : Bool} {next piece name : List Char}
    (h : (resolve shareTypes next piece).1 = some name) : name = (splitWord piece).1 := by
  simp only [resolve] at h
  split_ifs at h <;> simp_all

/-- A name that is read holds no blank. -/
theorem blankFree_name_declared {shareTypes : Bool} {next piece : List Char} {name : String}
    (h : (declared shareTypes next piece).name = some name) : BlankFree name.toList := by
  obtain ⟨word, hword, rfl⟩ := Option.map_eq_some_iff.mp h
  rw [String.toList_ofList, name_resolve hword]
  intro c hc
  simpa using List.all_eq_true.mp List.all_takeWhile c hc

/-- Any text is read piece by piece, one parameter for each piece. A name holds no blank, and a type
that is not set off by `...` begins with no marker. Where types are not shared, the piece is the
name with blanks behind it, the markers that the flags tell, and the type; so is a piece of more
than one word, and one before a neighbour without a written type. Where types are shared, a piece of
one word before a neighbour with a written type is that neighbour again under its own name. -/
theorem readList_piece_by_piece (shareTypes : Bool) (text : List Char) :
    (readList shareTypes text).length = (pieces text).length ∧
    ∀ k piece p, (pieces text)[k]? = some piece → (readList shareTypes text)[k]? = some p →
      (∀ name, p.name = some name → BlankFree name.toList) ∧
      (p.isVariadic = false → StartsBare p.type.toList) ∧
      (shareTypes = false ∨ ¬BlankFree piece ∨
          (∀ next, (readList shareTypes text)[k + 1]? = some next → next.isTyped = false) →
        p.Spelled piece) ∧
      (shareTypes = true → BlankFree piece →
        ∀ next, (readList shareTypes text)[k + 1]? = some next → next.isTyped = true →
          p = { next with name := some (String.ofList piece) }) := by
  refine ⟨length_resolveAll _ _, fun k piece p hpiece hp => ?_⟩
  let later := resolveAll shareTypes ((pieces text).drop (k + 1))
  have hdeclared : declared shareTypes later.2 piece = p := by
    rw [readList, getElem?_resolveAll, hpiece] at hp
    exact Option.some.inj hp
  have hhead : later.1.head? = (readList shareTypes text)[k + 1]? := head?_resolveAll_drop _ _ _
  -- The parameter behind this one has the written type that is handed on.
  have hnext : ∀ next, (readList shareTypes text)[k + 1]? = some next → next.HasType later.2 :=
    fun next hget => hasType_head_resolveAll (hhead.trans hget)
  subst hdeclared
  refine ⟨fun name => blankFree_name_declared, (hasType_ofWritten _ _).bare, ?_, ?_⟩
  · intro hcases
    by_cases hfree : BlankFree piece
    · refine spelled_declared_of_blankFree hfree ?_
      rintro ⟨hshare, hne⟩
      obtain ⟨next, hfirst⟩ := exists_head_resolveAll hne
      have hget := hhead.symm.trans hfirst
      have htyped := (hnext next hget).isTyped_iff.mpr hne
      rcases hcases with hown | hwords | huntyped
      · simp [hshare] at hown
      · exact hwords hfree
      · simp [huntyped next hget] at htyped
    · exact spelled_declared_of_not_blankFree (trimmed_of_mem_pieces (List.mem_of_getElem? hpiece))
        hfree _ _
  · intro hshare hfree next hget htyped
    have htype := hnext next hget
    rw [hshare]
    exact declared_eq_next hfree htype (htype.isTyped_iff.mp htyped)

/-- A name that leaves its type to a neighbour with both markers, an empty piece, and a paren that
closes nothing. -/
theorem readList_piece_by_piece_malformed :
    let text := "a , b *...T, , ) c".toList
    pieces text = ["a".toList, "b *...T".toList, [], ") c".toList] ∧
      (readList true text)[1]? = some ⟨some "b", "T", true, true⟩ ∧
      (readList true text)[0]? = some ⟨some "a", "T", true, true⟩ ∧
      ∃ p, (readList false text)[1]? = some p ∧ p.Spelled "b *...T".toList := by
  intro text
  have hpieces : pieces text = ["a".toList, "b *...T".toList, [], ") c".toList] := by decide
  have hnext : (readList true text)[1]? = some ⟨some "b", "T", true, true⟩ := by decide
  have hread (shareTypes : Bool) (k : Fin 4) : ∃ p, (readList shareTypes text)[k]? = some p := by
    have hlength := (readList_piece_by_piece shareTypes text).1
    rw [hpieces] at hlength
    exact ⟨_, List.getElem?_eq_getElem (hlength ▸ k.isLt)⟩
  obtain ⟨p, hp⟩ := hread true 0
  obtain ⟨p', hp'⟩ := hread false 1
  obtain ⟨-, -, -, hshared⟩ := (readList_piece_by_piece true text).2 0 "a".toList p (by decide) hp
  obtain ⟨-, -, hown, -⟩ :=
    (readList_piece_by_piece false text).2 1 "b *...T".toList p' (by decide) hp'
  have hsame := hshared rfl (by decide) _ hnext (by decide)
  exact ⟨hpieces, hnext, hp.trans (congrArg some hsame), p', hp', hown (Or.inl rfl)⟩

end Param

end NearMiss
