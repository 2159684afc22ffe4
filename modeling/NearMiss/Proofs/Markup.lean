import NearMiss.Console.Table

/-!
# Texts that can be printed

Only an opening bracket with a small letter or one of a few signs behind it begins a tag. A text
without such brackets is shown piece by piece, whatever else is in it, also where a style is set
around it or before it.
-/

namespace NearMiss.Console

open Text

/-! ## Where tags begin -/

/-- Whether no bracket of the text begins a tag, whatever stands behind the text. -/
def isTagFree : List Char → Bool
  | [] => true
  | c :: rest => !(c == '[' && rest.head?.any opensTag) && isTagFree rest

/-- No bracket of the text begins a tag. -/
def TagFree (s : List Char) : Prop :=
  isTagFree s = true

instance decidableTagFree (s : List Char) : Decidable (TagFree s) :=
  inferInstanceAs (Decidable (isTagFree s = true))

/-- The tags that begin at brackets of the text, also at those that are made plain. -/
def openings : List Char → List (List Char)
  | [] => []
  | c :: rest =>
    if c = '[' then ((tagBody? rest).map Prod.fst).toList ++ openings rest else openings rest

/-- The tags among pieces. -/
def tagsOf (ps : List Piece) : List (List Char) :=
  ps.filterMap fun
    | .plain _ => none
    | .tag body => some body

/-- The empty text has no tags. -/
theorem tagFree_nil : TagFree [] := rfl

/-- Whether a text has tags is seen character by character. -/
theorem tagFree_cons {c : Char} {rest : List Char} :
    TagFree (c :: rest) ↔ (c = '[' → rest.head?.any opensTag = false) ∧ TagFree rest := by
  rw [TagFree, isTagFree, TagFree]
  by_cases hc : c = '['
  · simp [hc]
  · simp [hc]

/-- Two texts without tags make one, unless a tag begins where they meet. -/
theorem TagFree.append {s t : List Char} (hs : TagFree s) (ht : TagFree t)
    (hhead : t.head?.any opensTag = false) : TagFree (s ++ t) := by
  induction s with
  | nil => exact ht
  | cons c rest ih =>
    obtain ⟨hc, hrest⟩ := tagFree_cons.mp hs
    refine tagFree_cons.mpr ⟨fun hbracket => ?_, ih hrest⟩
    cases rest with
    | nil => exact hhead
    | cons d rest => exact hc hbracket

/-- A text without brackets adds no tag in front of another. -/
theorem TagFree.append_of_not_mem {s t : List Char} (hs : '[' ∉ s) (ht : TagFree t) :
    TagFree (s ++ t) := by
  induction s with
  | nil => exact ht
  | cons c rest ih =>
    rw [List.mem_cons, not_or] at hs
    exact tagFree_cons.mpr ⟨fun hc => absurd hc.symm hs.1, ih hs.2⟩

/-- A text without brackets has no tags. -/
theorem TagFree.of_not_mem {s : List Char} (hs : '[' ∉ s) : TagFree s := by
  rw [← List.append_nil s]
  exact .append_of_not_mem hs tagFree_nil

/-- No tag begins before a character that opens none. -/
theorem tagBody?_eq_none {s : List Char} (hs : s.head?.any opensTag = false) :
    tagBody? s = none := by
  simp only [tagBody?, hs, Bool.false_eq_true, if_false]

/-- A body that opens a tag is closed by the bracket behind it. -/
theorem tagBody?_append (body : List Char) (hopens : body.head?.any opensTag = true)
    (hinside : ∀ c ∈ body, (c != '[' && c != ']') = true) (rest : List Char) :
    tagBody? (body ++ ']' :: rest) = some (body, rest) := by
  have hhead : (body ++ ']' :: rest).head?.any opensTag = true := by
    cases body with
    | nil => cases hopens
    | cons c body => exact hopens
  simp only [tagBody?, hhead, if_true]
  rw [List.dropWhile_append_of_pos hinside, List.takeWhile_append_of_pos hinside]
  simp

/-- A text without tags leaves the tags of what stands behind it. -/
theorem openings_append {s t : List Char} (hs : TagFree s)
    (hhead : t.head?.any opensTag = false) : openings (s ++ t) = openings t := by
  induction s with
  | nil => rfl
  | cons c rest ih =>
    obtain ⟨hbracket, hrest⟩ := tagFree_cons.mp hs
    have hnone : c = '[' → tagBody? (rest ++ t) = none := by
      intro hc
      cases rest with
      | nil => exact tagBody?_eq_none hhead
      | cons d rest => exact tagBody?_eq_none (hbracket hc)
    rw [List.cons_append, openings]
    split
    · next hc =>
      rw [hnone hc, ih hrest]
      rfl
    · exact ih hrest

/-- A text without brackets leaves the tags of what stands behind it. -/
theorem openings_append_of_not_mem {s : List Char} (hs : '[' ∉ s) (t : List Char) :
    openings (s ++ t) = openings t := by
  induction s with
  | nil => rfl
  | cons c rest ih =>
    rw [List.mem_cons, not_or] at hs
    rw [List.cons_append, openings, if_neg fun hc => hs.1 hc.symm, ih hs.2]

/-- No tag begins in a text without tags. -/
theorem TagFree.openings_eq_nil {s : List Char} (hs : TagFree s) : openings s = [] := by
  have happend := openings_append (t := []) hs rfl
  rwa [List.append_nil] at happend

/-- The tags of the end of a text are among its tags. -/
theorem openings_sublist_of_suffix {s t : List Char} (h : s <:+ t) :
    (openings s).Sublist (openings t) := by
  obtain ⟨front, rfl⟩ := h
  induction front with
  | nil => exact List.Sublist.refl _
  | cons c front ih =>
    rw [List.cons_append, openings]
    split
    · exact ih.trans (List.sublist_append_right _ _)
    · exact ih

/-! ## The tags of a text -/

/-- Pieces have their tags one after the other. -/
theorem tagsOf_append (ps qs : List Piece) : tagsOf (ps ++ qs) = tagsOf ps ++ tagsOf qs :=
  List.filterMap_append ..

/-- A plain piece has no tags. -/
theorem tagsOf_plainPiece (text : List Char) : tagsOf (plainPiece text) = [] := by
  rw [plainPiece]
  split <;> rfl

/-- What stands behind a tag ends the text. -/
theorem suffix_of_tagBody? {s body rest : List Char} (h : tagBody? s = some (body, rest)) :
    rest <:+ s := by
  simp only [tagBody?] at h
  split at h
  · split at h
    · next hrest =>
      cases h
      have hsuffix := List.dropWhile_suffix (fun c => c != '[' && c != ']') (l := s)
      rw [hrest] at hsuffix
      exact (List.suffix_cons _ _).trans hsuffix
    · cases h
  · cases h

/-- The tags among the pieces of a text begin at its brackets, in their order. -/
theorem tagsOf_piecesUpTo_sublist (fuel : Nat) (held s : List Char) :
    (tagsOf (piecesUpTo fuel held s)).Sublist (openings s) := by
  induction fuel generalizing held s with
  | zero =>
    rw [piecesUpTo, tagsOf_plainPiece]
    exact List.nil_sublist _
  | succ fuel ih =>
    -- A tag that is read and what is read behind it begin at the bracket and behind it.
    have htag : ∀ {body rest behind}, tagBody? rest = some (body, behind) →
        (body :: tagsOf (piecesUpTo fuel [] behind)).Sublist (openings ('[' :: rest)) := by
      intro body rest behind hbody
      rw [openings, if_pos rfl, hbody]
      have hbehind := openings_sublist_of_suffix (suffix_of_tagBody? hbody)
      exact ((ih [] behind).trans hbehind).cons_cons _
    rw [piecesUpTo.eq_def]
    dsimp only
    split
    · rw [tagsOf_plainPiece]
      exact List.nil_sublist _
    · next rest =>
      split
      · next body behind hbody =>
        rw [tagsOf_append, tagsOf_plainPiece]
        exact htag hbody
      · exact (ih _ _).trans (openings_sublist_of_suffix (List.suffix_cons _ _))
    · next rest =>
      have hsuffix : rest.dropWhile (· == '\\') <:+ '\\' :: rest :=
        (List.dropWhile_suffix _).trans (List.suffix_cons _ _)
      split
      · next behind hdrop =>
        rw [hdrop] at hsuffix
        refine List.Sublist.trans ?_ (openings_sublist_of_suffix hsuffix)
        split
        · next body behind hbody =>
          rw [tagsOf_append, tagsOf_append, tagsOf_plainPiece, tagsOf_plainPiece]
          split
          · exact (List.sublist_cons_self _ _).trans (htag hbody)
          · exact htag hbody
        · exact (ih _ _).trans (openings_sublist_of_suffix (List.suffix_cons _ _))
      · exact (ih _ _).trans (openings_sublist_of_suffix hsuffix)
    · exact (ih _ _).trans (openings_sublist_of_suffix (List.suffix_cons _ _))

/-- A tag behind a plain text is read. -/
theorem piecesUpTo_tag {lead body : List Char}
    (hlead : ∀ c ∈ lead, c ≠ '[' ∧ c ≠ '\\') (hopens : body.head?.any opensTag = true)
    (hbody : ∀ c ∈ body, (c != '[' && c != ']') = true) (fuel : Nat) (held rest : List Char) :
    piecesUpTo (fuel + lead.length + 1) held (lead ++ '[' :: (body ++ ']' :: rest)) =
      plainPiece (held.reverse ++ lead) ++ .tag body :: piecesUpTo fuel [] rest := by
  induction lead generalizing held with
  | nil =>
    have htag := tagBody?_append body hopens hbody rest
    rw [List.append_nil, List.nil_append, List.length_nil, piecesUpTo]
    simp only [htag]
  | cons c lead ih =>
    have hc := hlead c List.mem_cons_self
    rw [List.cons_append, List.length_cons, ← Nat.add_assoc, piecesUpTo]
    · rw [ih fun d hd => hlead d (List.mem_cons_of_mem _ hd)]
      simp
    · exact hc.1
    · exact hc.2

/-! ## Printing -/

/-- Whether tags match is seen from the tags alone. -/
theorem map_snd_readPieces (tags : Tags) (ps : List Piece) :
    (readPieces tags ps).map Prod.snd = (tagsOf ps).foldlM Tags.after tags := by
  induction ps generalizing tags with
  | nil => rfl
  | cons piece later ih =>
    cases piece with
    | plain text =>
      have htags : tagsOf (.plain text :: later) = tagsOf later := rfl
      rw [htags, ← ih tags, readPieces]
      cases readPieces tags later <;> rfl
    | tag body =>
      have htags : tagsOf (.tag body :: later) = body :: tagsOf later := rfl
      rw [htags, List.foldlM_cons, readPieces]
      cases tags.after body with
      | error error => rfl
      | ok next => exact ih next

/-- A text is shown if its tags match. -/
theorem exists_matchTags {markup : String} {tags : Tags}
    (h : (tagsOf (pieces markup.toList)).foldlM Tags.after {} = .ok tags) :
    ∃ shown, matchTags markup = .ok (shown, tags) := by
  rw [← map_snd_readPieces] at h
  cases hread : readPieces {} (pieces markup.toList) with
  | error error =>
    rw [hread] at h
    cases h
  | ok result =>
    rw [hread] at h
    obtain rfl : result.2 = tags := Except.ok.inj h
    exact ⟨result.1, hread⟩

/-- What is shown is seen if the styles can be had. -/
theorem visible_of_matchTags {markup : String} {shown : List Char} {tags : Tags}
    (h : matchTags markup = .ok (shown, tags)) (hsound : tags.isBroken = false) :
    visible markup = .ok shown := by
  simp [visible, h, hsound, bind, Except.bind, pure, Except.pure]

/-- A text can be printed if its tags match and their styles can be had. -/
theorem exists_printed {markup : String} (tags : Tags)
    (hmatch : (tagsOf (pieces markup.toList)).foldlM Tags.after {} = .ok tags)
    (hsound : tags.isBroken = false) : ∃ text, printed markup = .ok text := by
  obtain ⟨shown, hshown⟩ := exists_matchTags hmatch
  exact ⟨_, by rw [printed, visible_of_matchTags hshown hsound]; rfl⟩

/-- A text without tags is shown. -/
theorem TagFree.exists_matchTags {markup : String} (h : TagFree markup.toList) :
    ∃ shown, matchTags markup = .ok (shown, {}) := by
  have htags := tagsOf_piecesUpTo_sublist (markup.toList.length + 1) [] markup.toList
  rw [h.openings_eq_nil, List.sublist_nil] at htags
  refine Console.exists_matchTags ?_
  rw [pieces, htags]
  rfl

/-- A text without tags is seen. -/
theorem TagFree.exists_visible {markup : String} (h : TagFree markup.toList) :
    ∃ shown, visible markup = .ok shown := by
  obtain ⟨shown, hshown⟩ := h.exists_matchTags
  exact ⟨shown, visible_of_matchTags hshown rfl⟩

/-- A text without tags can be printed. -/
theorem TagFree.exists_printed {markup : String} (h : TagFree markup.toList) :
    ∃ text, printed markup = .ok text := by
  obtain ⟨shown, hshown⟩ := h.exists_visible
  exact ⟨_, by rw [printed, hshown]; rfl⟩

/-- The style is a word that can be put to use and is closed under its own name. -/
structure Usable (style : List Char) : Prop where
  opens : style.head?.any opensTag = true
  inside : (style.all fun c => c != '[' && c != ']') = true
  works : ∃ opened closed, ({} : Tags).after style = .ok opened ∧ opened.isBroken = false ∧
    opened.after ('/' :: style) = .ok closed ∧ closed.isBroken = false

/-- The styles that the commands use can be put to use. -/
theorem usable_of_mem {style : List Char}
    (hstyle : style ∈
      ["blue".toList, "dim".toList, "green".toList, "yellow".toList, "red".toList]) :
    Usable style := by
  simp only [List.mem_cons, List.not_mem_nil, or_false] at hstyle
  rcases hstyle with rfl | rfl | rfl | rfl | rfl
  all_goals exact
    ⟨by decide, by decide, _, _, rfl, by decide +kernel, rfl, by decide +kernel⟩

/-- Around a text without tags, a style is all that begins at brackets. -/
theorem Usable.openings_closing {style s t : List Char} (hstyle : Usable style) (hs : TagFree s)
    (ht : TagFree t) : openings (s ++ '[' :: '/' :: (style ++ ']' :: t)) = ['/' :: style] := by
  have hinside : ∀ c ∈ '/' :: style, (c != '[' && c != ']') = true := by
    rw [List.forall_mem_cons]
    exact ⟨by decide, List.all_eq_true.mp hstyle.inside⟩
  have hbody : tagBody? ('/' :: (style ++ ']' :: t)) = some ('/' :: style, t) :=
    tagBody?_append ('/' :: style) rfl hinside t
  have hplain : '[' ∉ '/' :: (style ++ [']']) := by
    simp only [List.mem_cons, List.mem_append, List.not_mem_nil, or_false, not_or]
    have hstyle : '[' ∉ style := fun hmem =>
      absurd (hinside '[' (List.mem_cons_of_mem _ hmem)) (by decide)
    exact ⟨by decide, hstyle, by decide⟩
  have hbehind : openings ('/' :: (style ++ ']' :: t)) = [] := by
    have happend := openings_append_of_not_mem hplain t
    rwa [ht.openings_eq_nil, List.cons_append, List.append_assoc] at happend
  rw [openings_append hs rfl, openings, if_pos rfl, hbody, hbehind]
  rfl

/-- A text without tags can be printed in a style, with plain text before it and a text without tags
behind it. -/
theorem Usable.exists_printed {style lead s t : List Char} (hstyle : Usable style)
    (hlead : ∀ c ∈ lead, c ≠ '[' ∧ c ≠ '\\') (hs : TagFree s) (ht : TagFree t) {markup : String}
    (hmarkup : markup.toList =
      lead ++ '[' :: (style ++ ']' :: (s ++ '[' :: '/' :: (style ++ ']' :: t)))) :
    ∃ text, printed markup = .ok text := by
  obtain ⟨opened, closed, hopened, hopenedSound, hclosed, hclosedSound⟩ := hstyle.works
  let rest := s ++ '[' :: '/' :: (style ++ ']' :: t)
  have hfuel : markup.toList.length + 1 =
      markup.toList.length - lead.length + lead.length + 1 := by
    rw [hmarkup, List.length_append]
    omega
  have htags : tagsOf (pieces markup.toList) =
      style :: tagsOf (piecesUpTo (markup.toList.length - lead.length) [] rest) := by
    rw [pieces, hfuel]
    generalize markup.toList.length - lead.length = fuel
    rw [hmarkup, piecesUpTo_tag hlead hstyle.opens (List.all_eq_true.mp hstyle.inside),
      tagsOf_append, tagsOf_plainPiece]
    rfl
  have hsublist := tagsOf_piecesUpTo_sublist (markup.toList.length - lead.length) [] rest
  rw [hstyle.openings_closing hs ht] at hsublist
  -- The closing tag is read, or it is plain because a backslash stands before it.
  rcases List.sublist_cons_iff.mp hsublist with hnil | ⟨behind, hclosing, hnil⟩
  · refine Console.exists_printed opened ?_ hopenedSound
    rw [htags, List.sublist_nil.mp hnil, List.foldlM_cons, hopened]
    rfl
  · refine Console.exists_printed closed ?_ hclosedSound
    rw [htags, hclosing, List.sublist_nil.mp hnil, List.foldlM_cons, hopened]
    change (opened.after ('/' :: style)).bind pure = .ok closed
    rw [hclosed]
    rfl

/-! ## Tables -/

/-- Steps that all succeed succeed together. -/
theorem exists_mapM_eq_ok {ε α β : Type} {f : α → Except ε β} {xs : List α}
    (h : ∀ x ∈ xs, ∃ y, f x = .ok y) : ∃ ys, xs.mapM f = .ok ys := by
  induction xs with
  | nil => exact ⟨[], rfl⟩
  | cons x xs ih =>
    obtain ⟨y, hy⟩ := h x List.mem_cons_self
    obtain ⟨ys, hys⟩ := ih fun x hx => h x (List.mem_cons_of_mem _ hx)
    exact ⟨y :: ys, by rw [List.mapM_cons, hy, hys]; rfl⟩

/-- What holds of the title and the cells holds of all texts of a table. -/
theorem Table.forall_mem_texts {table : Table} {p : String → Prop}
    (htitle : ∀ title ∈ table.title, p title)
    (hrows : ∀ row ∈ table.headers :: table.rows, ∀ cell ∈ row, p cell) :
    ∀ text ∈ table.texts, p text := by
  intro text htext
  rcases List.mem_append.mp htext with hcell | htext
  · obtain ⟨i, -, hcolumn⟩ := List.mem_flatMap.mp hcell
    obtain ⟨row, hrow, hget⟩ := List.mem_filterMap.mp hcolumn
    exact hrows row hrow text (List.mem_of_getElem? hget)
  · exact htitle text (Option.mem_toList.mp htext)

end NearMiss.Console
