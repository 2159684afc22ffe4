import NearMiss.Proofs.Checker
import NearMiss.Proofs.Markup

/-!
# Texts that are shown as they are

A text with markup is shown as it is if it has no tag and no bracket behind a backslash, and calls
for no picture. Otherwise something is missing: a tag is not shown at all, and a bracket behind
backslashes takes one of them along. Without pictures nothing makes up for that.
-/

namespace NearMiss.Console

/-! ## Texts without markup -/

/-- The text has no tag and no bracket behind a backslash. -/
structure Unmarked (s : List Char) : Prop where
  /-- No tag begins in the text. -/
  noTag : openings s = []
  /-- No bracket has a backslash before it. -/
  noEscape : ¬['\\', '['] <:+: s

/-- The empty text has no markup. -/
theorem unmarked_nil : Unmarked [] where
  noTag := rfl
  noEscape := by simp

/-- Whether a text has markup is seen character by character. -/
theorem unmarked_cons_iff {c : Char} {rest : List Char} :
    Unmarked (c :: rest) ↔
      (c = '[' → tagBody? rest = none) ∧ (c = '\\' → rest.head? ≠ some '[') ∧ Unmarked rest := by
  have hopenings : openings (c :: rest) = [] ↔
      (c = '[' → tagBody? rest = none) ∧ openings rest = [] := by
    rw [openings]
    by_cases hc : c = '['
    · rw [if_pos hc, List.append_eq_nil_iff, Option.toList_eq_nil_iff, Option.map_eq_none_iff]
      simp [hc]
    · rw [if_neg hc]
      simp [hc]
  have hescape : ['\\', '['] <+: c :: rest ↔ c = '\\' ∧ rest.head? = some '[' := by
    rw [List.cons_prefix_cons, eq_comm]
    cases rest with
    | nil => simp
    | cons d rest => simp [List.cons_prefix_cons, eq_comm]
  constructor
  · intro h
    obtain ⟨htag, hopenings⟩ := hopenings.mp h.noTag
    have hnot := h.noEscape
    rw [List.infix_cons_iff, not_or, hescape] at hnot
    exact ⟨htag, fun hc hhead => hnot.1 ⟨hc, hhead⟩, hopenings, hnot.2⟩
  · rintro ⟨htag, hhead, hrest⟩
    refine ⟨hopenings.mpr ⟨htag, hrest.noTag⟩, ?_⟩
    rw [List.infix_cons_iff, not_or, hescape]
    exact ⟨fun h => hhead h.1 h.2, hrest.noEscape⟩

/-- Before a text that begins with no bracket, backslashes are no markup. -/
theorem unmarked_replicate_append_iff {s : List Char} (hs : s.head? ≠ some '[') (n : Nat) :
    Unmarked (List.replicate n '\\' ++ s) ↔ Unmarked s := by
  induction n with
  | zero => rfl
  | succ n ih =>
    have hhead : (List.replicate n '\\' ++ s).head? ≠ some '[' := by
      cases n with
      | zero => exact hs
      | succ n => simp [List.replicate_succ]
    rw [List.replicate_succ, List.cons_append, unmarked_cons_iff, ih]
    exact ⟨fun h => h.2.2, fun h => ⟨fun hc => absurd hc (by decide), fun _ => hhead, h⟩⟩

/-- A bracket behind backslashes is markup. -/
theorem not_unmarked_append_bracket {n : Nat} (hn : n ≠ 0) (rest : List Char) :
    ¬Unmarked (List.replicate n '\\' ++ '[' :: rest) := by
  intro h
  refine h.noEscape ⟨List.replicate (n - 1) '\\', rest, ?_⟩
  obtain ⟨n, rfl⟩ := Nat.exists_eq_succ_of_ne_zero hn
  rw [Nat.succ_eq_add_one, Nat.add_sub_cancel, List.replicate_succ', List.append_assoc,
    List.append_assoc]
  rfl

/-- A tag ends with its closing bracket. -/
theorem eq_append_of_tagBody? {s body rest : List Char} (h : tagBody? s = some (body, rest)) :
    s = body ++ ']' :: rest := by
  simp only [tagBody?] at h
  split at h
  · split at h
    · next hrest =>
      cases h
      rw [← hrest, List.takeWhile_append_dropWhile]
    · cases h
  · cases h

/-! ## What is left of a text -/

/-- The characters between the tags. -/
def plainText (ps : List Piece) : List Char :=
  ps.flatMap fun
    | .plain text => text
    | .tag _ => []

/-- Pieces show their characters one after the other. -/
theorem plainText_append (ps qs : List Piece) :
    plainText (ps ++ qs) = plainText ps ++ plainText qs :=
  List.flatMap_append

/-- A plain piece shows its characters. -/
theorem plainText_plainPiece (text : List Char) : plainText (plainPiece text) = text := by
  rw [plainPiece]
  split
  · next hempty =>
    rw [List.isEmpty_iff.mp hempty]
    rfl
  · simp [plainText]

/-- What is done with the front of a text: it is read on as plain text, or it is markup, and then
something is lost. -/
inductive Advance (fuel : Nat) (held s : List Char) : Prop
  /-- Nothing is left to read. -/
  | done (hs : s = []) (heq : piecesUpTo (fuel + 1) held s = plainPiece held.reverse)
  /-- The front is plain text. -/
  | plain (front rest : List Char) (hs : s = front ++ rest) (hfront : front ≠ [])
    (hmarked : Unmarked s ↔ Unmarked rest)
    (heq : piecesUpTo (fuel + 1) held s = piecesUpTo fuel (front.reverse ++ held) rest)
  /-- The front is markup. -/
  | markup (front rest lead later : List Char) (hs : s = front ++ rest) (hfront : front ≠ [])
    (hmarked : ¬Unmarked s)
    (heq : plainText (piecesUpTo (fuel + 1) held s) =
      lead ++ plainText (piecesUpTo fuel later rest))
    (hkept : lead ++ later ⊆ held ++ front)
    (hlost : lead.length + later.length < held.length + front.length)

/-- The backslashes in front of a text, and the text behind them. -/
theorem cons_eq_replicate_append (rest : List Char) :
    '\\' :: rest = List.replicate (1 + (rest.takeWhile (· == '\\')).length) '\\' ++
      rest.dropWhile (· == '\\') := by
  have hfront : rest.takeWhile (· == '\\') =
      List.replicate (rest.takeWhile (· == '\\')).length '\\' := by
    refine List.eq_replicate_of_mem fun c hc => ?_
    have hbackslash := List.mem_takeWhile_imp (p := (· == '\\')) hc
    exact beq_iff_eq.mp hbackslash
  rw [Nat.add_comm, List.replicate_succ, List.cons_append, ← hfront,
    List.takeWhile_append_dropWhile]

section Backslashes

variable {rest behind : List Char} {n : Nat} (hn : 1 + (rest.takeWhile (· == '\\')).length = n)
  (hbehind : rest.dropWhile (· == '\\') = '[' :: behind)

include hn hbehind

/-- The backslashes in front of the bracket. -/
theorem cons_eq_replicate_append_bracket :
    '\\' :: rest = List.replicate n '\\' ++ '[' :: behind := by
  rw [cons_eq_replicate_append, hn, hbehind]

/-- The backslashes are markup. -/
theorem not_unmarked_backslash : ¬Unmarked ('\\' :: rest) := by
  rw [cons_eq_replicate_append_bracket hn hbehind]
  exact not_unmarked_append_bracket (by omega) behind

/-- Before a bracket that begins no tag, one backslash is lost. -/
theorem advance_bracket (hbody : tagBody? behind = none) (fuel : Nat) (held : List Char) :
    Advance fuel held ('\\' :: rest) := by
  refine .markup (List.replicate n '\\' ++ ['[']) behind []
    ('[' :: List.replicate (n - 1) '\\' ++ held) ?_ (by simp)
    (not_unmarked_backslash hn hbehind) ?_ ?_ ?_
  · rw [cons_eq_replicate_append_bracket hn hbehind, List.append_assoc]
    rfl
  · simp only [piecesUpTo, hbehind, hbody, hn]
    rfl
  · have hpos : n ≠ 0 := by omega
    intro d hd
    simp only [List.nil_append, List.cons_append, List.mem_cons, List.mem_append,
      List.mem_replicate, List.not_mem_nil, or_false] at hd ⊢
    tauto
  · simp only [List.length_append, List.length_cons, List.length_nil, List.length_replicate]
    omega

/-- Before a tag half of the backslashes are lost, whether they make the tag plain or not. -/
theorem advance_tag {body after : List Char} (hbody : tagBody? behind = some (body, after))
    (fuel : Nat) (held : List Char) : Advance fuel held ('\\' :: rest) := by
  obtain ⟨kept, hkept, hpieces⟩ : ∃ kept, kept.Sublist ('[' :: body ++ [']']) ∧
      plainText (piecesUpTo (fuel + 1) held ('\\' :: rest)) =
        (held.reverse ++ List.replicate (n / 2) '\\' ++ kept) ++
          plainText (piecesUpTo fuel [] after) := by
    simp only [piecesUpTo, hbehind, hbody, hn, plainText_append, plainText_plainPiece]
    by_cases hodd : n % 2 = 1
    · refine ⟨_, List.Sublist.refl _, ?_⟩
      rw [if_pos hodd, List.append_assoc, List.append_assoc, List.append_assoc]
      rfl
    · refine ⟨[], List.nil_sublist _, ?_⟩
      rw [if_neg hodd, List.append_nil]
      rfl
  refine .markup (List.replicate n '\\' ++ ('[' :: body ++ [']'])) after _ [] ?_ (by simp)
    (not_unmarked_backslash hn hbehind) hpieces ?_ ?_
  · rw [cons_eq_replicate_append_bracket hn hbehind, eq_append_of_tagBody? hbody]
    simp
  · intro d hd
    have hsubset : d ∈ kept → d ∈ '[' :: body ++ [']'] := fun hmem => hkept.subset hmem
    simp only [List.append_nil, List.mem_append, List.mem_reverse, List.mem_replicate] at hd ⊢
    grind
  · have hlength := hkept.length_le
    simp only [List.length_append, List.length_reverse, List.length_replicate,
      List.length_nil] at hlength ⊢
    omega

end Backslashes

/-- Backslashes are plain text unless a bracket follows. -/
theorem advance_backslash (fuel : Nat) (held rest : List Char) :
    Advance fuel held ('\\' :: rest) := by
  obtain ⟨n, hn⟩ : ∃ n, 1 + (rest.takeWhile (· == '\\')).length = n := ⟨_, rfl⟩
  by_cases hhead : (rest.dropWhile (· == '\\')).head? = some '['
  · obtain ⟨behind, hbehind⟩ := List.head?_eq_some_iff.mp hhead
    cases hbody : tagBody? behind with
    | none => exact advance_bracket hn hbehind hbody fuel held
    | some found => exact advance_tag hn hbehind hbody fuel held
  · have hs := cons_eq_replicate_append rest
    rw [hn] at hs
    refine .plain _ _ hs ?_ ?_ ?_
    · rw [Ne, List.replicate_eq_nil_iff]
      omega
    · nth_rewrite 1 [hs]
      exact unmarked_replicate_append_iff hhead n
    · rw [List.reverse_replicate]
      simp only [piecesUpTo, hn]
      split
      · next behind hbehind => exact absurd (by rw [hbehind]; rfl) hhead
      · rfl

/-- Something is done with the front of every text. -/
theorem advance (fuel : Nat) (held s : List Char) : Advance fuel held s := by
  cases s with
  | nil => exact .done rfl rfl
  | cons c rest =>
    by_cases hbracket : c = '['
    · subst hbracket
      cases hbody : tagBody? rest with
      | none =>
        refine .plain ['['] rest rfl (by simp) ?_ (by simp only [piecesUpTo, hbody]; rfl)
        rw [unmarked_cons_iff]
        exact ⟨fun h => h.2.2, fun h => ⟨fun _ => hbody, fun hc => absurd hc (by decide), h⟩⟩
      | some found =>
        obtain ⟨body, behind⟩ := found
        refine .markup ('[' :: body ++ [']']) behind held.reverse [] ?_ (by simp) ?_ ?_ ?_ ?_
        · rw [eq_append_of_tagBody? hbody]
          simp
        · intro h
          rw [(unmarked_cons_iff.mp h).1 rfl] at hbody
          cases hbody
        · simp only [piecesUpTo, hbody, plainText_append, plainText_plainPiece]
          rfl
        · rw [List.append_nil]
          exact List.reverse_subset.mpr (List.subset_append_left _ _)
        · simp
    · by_cases hbackslash : c = '\\'
      · subst hbackslash
        exact advance_backslash fuel held rest
      · refine .plain [c] rest rfl (by simp) ?_ ?_
        · rw [unmarked_cons_iff]
          exact ⟨fun h => h.2.2,
            fun h => ⟨fun hc => absurd hc hbracket, fun hc => absurd hc hbackslash, h⟩⟩
        · rw [piecesUpTo]
          · rfl
          · exact hbracket
          · exact hbackslash

/-- What is read takes no more steps than there are characters. -/
theorem length_lt_of_append {front rest : List Char} {fuel : Nat} (hfront : front ≠ [])
    (hfuel : (front ++ rest).length < fuel + 1) : rest.length < fuel := by
  have hlength := List.length_pos_iff.mpr hfront
  rw [List.length_append] at hfuel
  omega

section Pieces

variable {fuel : Nat} {s : List Char} (hfuel : s.length < fuel) (held : List Char)

include hfuel

/-- A text without markup is one piece. -/
theorem Unmarked.piecesUpTo_eq (h : Unmarked s) :
    piecesUpTo fuel held s = plainPiece (held.reverse ++ s) := by
  induction fuel generalizing held s with
  | zero => omega
  | succ fuel ih =>
    cases advance fuel held s with
    | done hs heq => rw [heq, hs, List.append_nil]
    | plain front rest hs hfront hmarked heq =>
      subst hs
      rw [heq, ih (length_lt_of_append hfront hfuel) _ (hmarked.mp h)]
      simp
    | markup _ _ _ _ _ _ hmarked => exact absurd h hmarked

/-- What is left of a text comes from it. -/
theorem plainText_piecesUpTo_subset : plainText (piecesUpTo fuel held s) ⊆ held ++ s := by
  induction fuel generalizing held s with
  | zero => omega
  | succ fuel ih =>
    cases advance fuel held s with
    | done hs heq =>
      rw [heq, hs, plainText_plainPiece, List.append_nil]
      exact List.reverse_subset.mpr (List.Subset.refl held)
    | plain front rest hs hfront hmarked heq =>
      subst hs
      intro c hc
      rw [heq] at hc
      have hmem := ih (length_lt_of_append hfront hfuel) _ hc
      simp only [List.mem_append, List.mem_reverse] at hmem ⊢
      tauto
    | markup front rest lead later hs hfront hmarked heq hkept hlost =>
      subst hs
      intro c hc
      rw [heq, List.mem_append] at hc
      have hrest := ih (length_lt_of_append hfront hfuel) later
      have hfrom (hmem : c ∈ lead ++ later) : c ∈ held ++ front := hkept hmem
      rcases hc with hc | hc
      · have hmem := hfrom (List.mem_append_left _ hc)
        simp only [List.mem_append] at hmem ⊢
        tauto
      · have hmem := hrest hc
        simp only [List.mem_append] at hmem hfrom ⊢
        tauto

/-- Markup makes a text shorter. -/
theorem length_plainText_piecesUpTo :
    (plainText (piecesUpTo fuel held s)).length ≤ held.length + s.length ∧
      (¬Unmarked s → (plainText (piecesUpTo fuel held s)).length < held.length + s.length) := by
  induction fuel generalizing held s with
  | zero => omega
  | succ fuel ih =>
    cases advance fuel held s with
    | done hs heq =>
      rw [heq, hs, plainText_plainPiece, List.length_reverse]
      exact ⟨Nat.le_add_right _ _, fun hmarked => absurd unmarked_nil hmarked⟩
    | plain front rest hs hfront hmarked heq =>
      rw [hmarked, heq]
      subst hs
      have hrest := ih (length_lt_of_append hfront hfuel) (front.reverse ++ held)
      have hlength : (front.reverse ++ held).length + rest.length =
          held.length + (front ++ rest).length := by
        simp only [List.length_append, List.length_reverse]
        omega
      rwa [hlength] at hrest
    | markup front rest lead later hs hfront hmarked heq hkept hlost =>
      subst hs
      have hrest := (ih (length_lt_of_append hfront hfuel) later).1
      rw [heq, List.length_append, List.length_append]
      omega

end Pieces

/-! ## Texts that are shown as they are -/

/-- A character other than a colon calls for no picture. -/
theorem withPictures_cons {c : Char} (hc : c ≠ ':') (s : List Char) :
    withPictures (c :: s) = c :: withPictures s := by
  rw [withPictures, List.length_cons, withPicturesUpTo]
  · rfl
  · exact hc

/-- Only a colon calls for a picture. -/
theorem withPictures_eq_self {s : List Char} (hs : ':' ∉ s) : withPictures s = s := by
  induction s with
  | nil => rfl
  | cons c s ih =>
    rw [List.mem_cons, not_or] at hs
    rw [withPictures_cons (Ne.symm hs.1), ih hs.2]

/-- Without colons, pieces show what is between the tags. -/
theorem fst_eq_plainText_of_readPieces {ps : List Piece} (hps : ':' ∉ plainText ps)
    {tags later : Tags} {shown : List Char} (h : readPieces tags ps = .ok (shown, later)) :
    shown = plainText ps := by
  induction ps generalizing tags shown with
  | nil =>
    cases h
    rfl
  | cons piece ps ih =>
    cases piece with
    | plain text =>
      have hsplit : plainText (.plain text :: ps) = text ++ plainText ps := rfl
      rw [hsplit, List.mem_append, not_or] at hps
      rw [readPieces] at h
      cases hread : readPieces tags ps with
      | error error =>
        rw [hread] at h
        cases h
      | ok result =>
        rw [hread] at h
        cases h
        rw [hsplit, ih hps.2 hread, withPictures_eq_self hps.1]
    | tag body =>
      rw [readPieces] at h
      split at h
      · cases h
      · exact ih hps h

section Reading

variable {fuel : Nat} {s : List Char} (hfuel : s.length < fuel)

include hfuel

/-- A text without markup is shown with its pictures, and leaves the tags alone. -/
theorem Unmarked.readPieces_eq (h : Unmarked s) (tags : Tags) :
    readPieces tags (piecesUpTo fuel [] s) = .ok (withPictures s, tags) := by
  rw [h.piecesUpTo_eq hfuel, List.reverse_nil, List.nil_append, plainPiece]
  split
  · next hempty =>
    rw [List.isEmpty_iff.mp hempty]
    rfl
  · rw [readPieces, readPieces]
    simp only [Except.map, List.append_nil]

/-- A text without colons that is shown as it is has no markup. -/
theorem unmarked_of_readPieces (hcolon : ':' ∉ s) {tags later : Tags}
    (h : readPieces tags (piecesUpTo fuel [] s) = .ok (s, later)) : Unmarked s := by
  by_contra hmarked
  have hlost := (length_plainText_piecesUpTo hfuel []).2 hmarked
  have hkept : ':' ∉ plainText (piecesUpTo fuel [] s) := fun hmem =>
    hcolon (plainText_piecesUpTo_subset hfuel [] hmem)
  rw [← fst_eq_plainText_of_readPieces hkept h, List.length_nil] at hlost
  omega

end Reading

/-- The markup shows the label and behind it the text, which is meant to be plain. -/
structure Shows (markup : String) (label text : List Char) : Prop where
  /-- If the text has no markup, all that changes is the pictures that it calls for. -/
  of_unmarked : Unmarked text → visible markup = .ok (label ++ withPictures text)
  /-- If the text can call for no picture, it is shown as it is exactly if it has no markup. -/
  iff_unmarked : ':' ∉ text → (visible markup = .ok (label ++ text) ↔ Unmarked text)
  /-- If the text can call for no picture, nothing is shown that is not there. -/
  subset : ':' ∉ text → ∀ shown, visible markup = .ok shown → shown ⊆ label ++ text

/-- Whether a character has no part in markup and in the names of pictures. -/
def isNeutral (c : Char) : Bool :=
  c != '[' && c != '\\' && c != ':'

/-- Neutral characters in front of a text are no markup. -/
theorem unmarked_append_iff {lead : List Char} (hlead : lead.all isNeutral = true)
    (s : List Char) : Unmarked (lead ++ s) ↔ Unmarked s := by
  induction lead with
  | nil => rfl
  | cons c lead ih =>
    rw [List.all_cons, Bool.and_eq_true] at hlead
    have hc : c ≠ '[' ∧ c ≠ '\\' := by
      simp only [isNeutral, Bool.and_eq_true, bne_iff_ne] at hlead
      exact hlead.1.1
    rw [List.cons_append, unmarked_cons_iff, ih hlead.2]
    simp [hc]

/-- Neutral characters in front of a text are shown as they are. -/
theorem withPictures_append {lead : List Char} (hlead : lead.all isNeutral = true)
    (s : List Char) : withPictures (lead ++ s) = lead ++ withPictures s := by
  induction lead with
  | nil => rfl
  | cons c lead ih =>
    rw [List.all_cons, Bool.and_eq_true] at hlead
    have hc : c ≠ ':' := by
      simp only [isNeutral, Bool.and_eq_true, bne_iff_ne] at hlead
      exact hlead.1.2
    rw [List.cons_append, withPictures_cons hc, ih hlead.2, List.cons_append]

/-- The tags of a text that is shown match. -/
theorem exists_matchTags_of_visible {markup : String} {shown : List Char}
    (h : visible markup = .ok shown) : ∃ tags, matchTags markup = .ok (shown, tags) := by
  rw [visible] at h
  cases hmatch : matchTags markup with
  | error error =>
    rw [hmatch] at h
    cases h
  | ok result =>
    obtain ⟨found, tags⟩ := result
    simp only [hmatch, bind, Except.bind] at h
    split at h
    · cases h
    · cases h
      exact ⟨tags, rfl⟩

/-- What is shown is decided by what is read behind the label. -/
theorem Shows.of_matchTags {markup : String} (label lead : List Char) {text : List Char}
    {fuel : Nat} (hfuel : (lead ++ text).length < fuel) (hlead : lead.all isNeutral = true)
    {tags : Tags} (hsound : tags.isBroken = false)
    (h : matchTags markup = (readPieces tags (piecesUpTo fuel [] (lead ++ text))).map
      (Prod.map (label ++ ·) id)) :
    Shows markup (label ++ lead) text := by
  have hmarked := unmarked_append_iff hlead text
  have hshown : Unmarked text → visible markup = .ok (label ++ lead ++ withPictures text) := by
    intro htext
    rw [(hmarked.mpr htext).readPieces_eq hfuel, withPictures_append hlead] at h
    rw [visible_of_matchTags h hsound, List.append_assoc]
  have hnone (hcolon : ':' ∉ text) : ':' ∉ lead ++ text := by
    rw [List.mem_append, not_or]
    refine ⟨fun hmem => ?_, hcolon⟩
    exact absurd (List.all_eq_true.mp hlead _ hmem) (by decide)
  have hread : ∀ shown, visible markup = .ok shown → ∃ found later,
      readPieces tags (piecesUpTo fuel [] (lead ++ text)) = .ok (found, later) ∧
        shown = label ++ found := by
    intro shown hvisible
    obtain ⟨last, hlast⟩ := exists_matchTags_of_visible hvisible
    rw [h] at hlast
    cases hpieces : readPieces tags (piecesUpTo fuel [] (lead ++ text)) with
    | error error =>
      rw [hpieces] at hlast
      cases hlast
    | ok result =>
      rw [hpieces] at hlast
      exact ⟨result.1, result.2, rfl, (congrArg Prod.fst (Except.ok.inj hlast)).symm⟩
  refine ⟨hshown, fun hcolon => ⟨fun hvisible => hmarked.mp ?_, fun htext => ?_⟩,
    fun hcolon shown hvisible => ?_⟩
  · obtain ⟨found, later, hpieces, hsame⟩ := hread _ hvisible
    rw [List.append_assoc, List.append_cancel_left_eq] at hsame
    rw [← hsame] at hpieces
    exact unmarked_of_readPieces hfuel (hnone hcolon) hpieces
  · rw [hshown htext, withPictures_eq_self hcolon]
  · obtain ⟨found, later, hpieces, rfl⟩ := hread _ hvisible
    have hkept : plainText (piecesUpTo fuel [] (lead ++ text)) ⊆ lead ++ text :=
      plainText_piecesUpTo_subset hfuel []
    have hfound := fst_eq_plainText_of_readPieces (fun hmem => hnone hcolon (hkept hmem)) hpieces
    rw [List.append_assoc, hfound]
    exact List.append_subset.mpr ⟨List.subset_append_left _ _,
      fun c hc => List.mem_append_right label (hkept hc)⟩

/-- A text is shown without a label. -/
theorem shows_self (s : String) : Shows s [] s.toList := by
  have hread : matchTags s = (readPieces {} (piecesUpTo (s.toList.length + 1) [] s.toList)).map
      (Prod.map ([] ++ ·) id) := by
    rw [matchTags, pieces]
    cases readPieces {} (piecesUpTo (s.toList.length + 1) [] s.toList) with
    | error error => rfl
    | ok result => rfl
  exact .of_matchTags [] [] (Nat.lt_succ_self _) rfl rfl hread

/-- The text is shown as it is: it has no markup and calls for no picture. -/
structure Literal (s : List Char) : Prop where
  /-- The text has no markup. -/
  unmarked : Unmarked s
  /-- The text calls for no picture. -/
  pictures : withPictures s = s

/-- Such a text is what it shows. -/
theorem Literal.visible_eq {s : String} (h : Literal s.toList) : visible s = .ok s.toList := by
  rw [(shows_self s).of_unmarked h.unmarked, h.pictures, List.nil_append]

/-- Whether the text has no bracket that can begin a tag, no backslash and no colon. -/
def isPlainText (s : List Char) : Bool :=
  isTagFree s && s.all fun c => c != '\\' && c != ':'

/-- A text without brackets that could matter, backslashes and colons is shown as it is. -/
theorem literal_of_isPlainText {s : List Char} (h : isPlainText s = true) : Literal s := by
  rw [isPlainText, Bool.and_eq_true] at h
  have hnone {c : Char} (hc : (c != '\\' && c != ':') = false) : c ∉ s := by
    intro hmem
    have htrue := List.all_eq_true.mp h.2 c hmem
    rw [hc] at htrue
    cases htrue
  have htags : TagFree s := h.1
  refine ⟨⟨htags.openings_eq_nil, fun hstretch => ?_⟩, withPictures_eq_self (hnone rfl)⟩
  exact hnone rfl (hstretch.subset List.mem_cons_self)

/-! ## Styled parts -/

/-- A plain piece is shown with its pictures. -/
theorem readPieces_plainPiece_append (tags : Tags) (text : List Char) (ps : List Piece) :
    readPieces tags (plainPiece text ++ ps) =
      (readPieces tags ps).map (Prod.map (withPictures text ++ ·) id) := by
  rw [plainPiece]
  split
  · next hempty =>
    rw [List.isEmpty_iff.mp hempty, List.nil_append]
    cases readPieces tags ps with
    | error error => rfl
    | ok result => rfl
  · rfl

/-- Plain text, a styled plain text and then any text: what is shown is decided by the last. -/
theorem Usable.shows {style lead s : List Char} (hstyle : Usable style)
    (hlead : ∀ c ∈ lead, c ≠ '[' ∧ c ≠ '\\') (hs : ∀ c ∈ s, c ≠ '[' ∧ c ≠ '\\')
    (hleadPictures : withPictures lead = lead) (hpictures : withPictures s = s)
    {behind text : List Char} (hbehind : behind.all isNeutral = true) {markup : String}
    (hmarkup : markup.toList = lead ++ '[' :: (style ++ ']' :: (s ++ '[' ::
      ('/' :: style ++ ']' :: (behind ++ text))))) :
    Shows markup (lead ++ s ++ behind) text := by
  obtain ⟨opened, closed, hopened, -, hclosed, hsound⟩ := hstyle.works
  have hinside : ∀ c ∈ '/' :: style, (c != '[' && c != ']') = true := by
    rw [List.forall_mem_cons]
    exact ⟨by decide, List.all_eq_true.mp hstyle.inside⟩
  obtain ⟨fuel, hfuel, hlength⟩ : ∃ fuel, (behind ++ text).length < fuel ∧
      markup.toList.length + 1 = fuel + s.length + 1 + lead.length + 1 := by
    refine ⟨markup.toList.length - s.length - lead.length - 1, ?_, ?_⟩
    all_goals
      rw [hmarkup]
      simp only [List.length_append, List.length_cons]
      omega
  have hpieces : pieces markup.toList = plainPiece lead ++ .tag style :: (plainPiece s ++
      .tag ('/' :: style) :: piecesUpTo fuel [] (behind ++ text)) := by
    rw [pieces, hlength, hmarkup,
      piecesUpTo_tag hlead hstyle.opens (List.all_eq_true.mp hstyle.inside),
      piecesUpTo_tag hs rfl hinside]
    rfl
  have hmatch : matchTags markup = (readPieces closed (piecesUpTo fuel [] (behind ++ text))).map
      (Prod.map (lead ++ s ++ ·) id) := by
    rw [matchTags, hpieces, readPieces_plainPiece_append, readPieces, hopened]
    simp only [readPieces_plainPiece_append, readPieces, hclosed, hleadPictures, hpictures]
    cases readPieces closed (piecesUpTo fuel [] (behind ++ text)) with
    | error error => rfl
    | ok result => simp only [Except.map, Prod.map, List.append_assoc, id]
  exact .of_matchTags (lead ++ s) behind hfuel hbehind hsound hmatch

/-! ## Tables -/

/-- The text of printed lines, each with its line feed. -/
def printedText (lines : List (List Char)) : String :=
  String.ofList (lines.flatMap (· ++ ['\n']))

/-- A table is drawn with what its texts show. -/
theorem Table.printed_eq {table : Table} {shown : String → List Char}
    (htitle : ∀ title ∈ table.title, visible title = .ok (shown title))
    (hrows : ∀ row ∈ table.headers :: table.rows, ∀ cell ∈ row, visible cell = .ok (shown cell)) :
    table.printed = .ok (printedText (drawnLines (table.title.map shown)
      (table.headers.map shown) (table.rows.map (List.map shown)))) := by
  have hmatched : ∃ found, table.texts.mapM matchTags = .ok found := by
    refine exists_mapM_eq_ok fun text htext => ?_
    have hvisible := forall_mem_texts htitle hrows text htext
    obtain ⟨tags, htags⟩ := exists_matchTags_of_visible hvisible
    exact ⟨_, htags⟩
  have hcells : ∀ row ∈ table.headers :: table.rows,
      row.mapM visible = .ok (row.map shown) := fun row hrow =>
    Checker.mapM_eq_ok_map (hrows row hrow)
  have htitles : table.title.mapM visible = .ok (table.title.map shown) := by
    cases hnone : table.title with
    | none => rfl
    | some title => simp [htitle title hnone, Functor.map, Except.map]
  have hbody : table.rows.mapM (fun row => row.mapM visible) =
      .ok (table.rows.map (List.map shown)) :=
    Checker.mapM_eq_ok_map fun row hrow => hcells row (List.mem_cons_of_mem _ hrow)
  obtain ⟨_, hmatched⟩ := hmatched
  rw [Table.printed, hmatched, htitles, hcells _ List.mem_cons_self, hbody]
  rfl

/-- A table can be printed if each of its texts is seen. -/
theorem Table.exists_printed_of_visible (table : Table)
    (htitle : ∀ title ∈ table.title, ∃ shown, visible title = .ok shown)
    (hrows : ∀ row ∈ table.headers :: table.rows, ∀ cell ∈ row, ∃ shown, visible cell = .ok shown) :
    ∃ text, table.printed = .ok text := by
  have hshown : ∀ {text : String}, (∃ shown, visible text = .ok shown) →
      visible text = .ok ((visible text).toOption.getD []) := by
    rintro text ⟨shown, hshown⟩
    rw [hshown]
    rfl
  exact ⟨_, Table.printed_eq (fun title hmem => hshown (htitle title hmem))
    fun row hrow cell hcell => hshown (hrows row hrow cell hcell)⟩

/-- A table of texts without tags can be printed. -/
theorem Table.exists_printed (table : Table)
    (htitle : ∀ title ∈ table.title, TagFree title.toList)
    (hrows : ∀ row ∈ table.headers :: table.rows, ∀ cell ∈ row, TagFree cell.toList) :
    ∃ text, table.printed = .ok text :=
  table.exists_printed_of_visible (fun title hmem => (htitle title hmem).exists_visible)
    fun row hrow cell hcell => (hrows row hrow cell hcell).exists_visible

end NearMiss.Console
