import NearMiss.Param
import NearMiss.Proofs.Depth

/-!
# Lists of pieces

A group lists its pieces with commas between them and blanks around them, and may end in a comma.
Cutting such a text at its outermost commas gives the pieces back, because a comma inside a piece
stands in parens and the blanks are trimmed off.
-/

namespace NearMiss.Param

open Text

/-- A text that can stand between two commas of a list and is found there again. -/
structure IsPiece (s : List Char) : Prop where
  /-- No blanks stand at its ends. -/
  trimmed : Trimmed s
  /-- Its parens are balanced. -/
  balanced : Balanced s
  /-- Its commas stand inside parens. -/
  noOuterComma : NoOuterComma s

instance (s : List Char) : Decidable (IsPiece s) :=
  decidable_of_iff (Trimmed s ∧ Balanced s ∧ NoOuterComma s)
    ⟨fun h => ⟨h.1, h.2.1, h.2.2⟩, fun h => ⟨h.trimmed, h.balanced, h.noOuterComma⟩⟩

/-- Letters and marks in front of a piece make a longer piece. -/
theorem IsPiece.prepend {front s : List Char} (hs : IsPiece s) (hne : s ≠ [])
    (hhead : ∀ c ∈ front.head?, isBlank c = false) (hparen : ParenFree front)
    (hcomma : ∀ c ∈ front, c ≠ ',') : IsPiece (front ++ s) where
  trimmed := by
    refine ⟨?_, ?_⟩
    · cases front with
      | nil => exact hs.trimmed.head
      | cons c front => exact hhead
    · rw [List.getLast?_append_of_ne_nil _ hne]
      exact hs.trimmed.last
  balanced := hparen.balanced.append hs.balanced
  noOuterComma := (noOuterComma_of_forall hcomma).append hparen.depth_eq_zero hs.noOuterComma

/-- The texts that list some pieces in order: any blanks around each piece, commas between them and
possibly one after the last. -/
inductive Lists : List (List Char) → List Char → Prop
  /-- An empty list, which is also what follows a comma at the end. -/
  | nothing {blank : List Char} (hblank : AllBlank blank) : Lists [] blank
  /-- A last piece without a comma after it. -/
  | last {piece before after : List Char} (hbefore : AllBlank before) (hafter : AllBlank after) :
      Lists [piece] (before ++ piece ++ after)
  /-- A piece with a comma after it. -/
  | more {piece before after text : List Char} {pieces : List (List Char)}
      (hbefore : AllBlank before) (hafter : AllBlank after) (hlater : Lists pieces text) :
      Lists (piece :: pieces) (before ++ piece ++ after ++ ',' :: text)

/-- Blanks in front of a list belong to it. -/
theorem Lists.blank_append {gap text : List Char} {items : List (List Char)}
    (hgap : AllBlank gap) (h : Lists items text) : Lists items (gap ++ text) := by
  cases h with
  | nothing hblank => exact .nothing (hgap.append hblank)
  | last hbefore hafter =>
    rw [← List.append_assoc, ← List.append_assoc]
    exact .last (hgap.append hbefore) hafter
  | more hbefore hafter hlater =>
    rw [← List.append_assoc, ← List.append_assoc, ← List.append_assoc]
    exact .more (hgap.append hbefore) hafter hlater

/-- Blanks around a balanced piece leave it balanced. -/
private theorem balanced_between_blanks {before piece after : List Char}
    (hbefore : AllBlank before) (hpiece : Balanced piece) (hafter : AllBlank after) :
    Balanced (before ++ piece ++ after) :=
  (hbefore.parenFree.balanced.append hpiece).append hafter.parenFree.balanced

/-- A list of balanced pieces is balanced. -/
theorem Lists.balanced {items : List (List Char)} {text : List Char} (h : Lists items text)
    (hitems : ∀ piece ∈ items, Balanced piece) : Balanced text := by
  induction h with
  | nothing hblank => exact hblank.parenFree.balanced
  | last hbefore hafter => exact balanced_between_blanks hbefore (hitems _ (by simp)) hafter
  | @more piece before after text pieces hbefore hafter _ ih =>
    have hcomma : Balanced (',' :: text) :=
      (show Balanced [','] by decide).append (ih fun p hp => hitems p (by simp [hp]))
    exact (balanced_between_blanks hbefore (hitems _ (by simp)) hafter).append hcomma

/-- The first segment begins with whatever holds no outer comma. -/
theorem segments_append {level : Int} {s : List Char} (hs : Passes (looksFor ',' 0) level s)
    (rest : List Char) :
    segments level (s ++ rest) =
      (s ++ (segments (level + depth s) rest).1, (segments (level + depth s) rest).2) := by
  induction s generalizing level with
  | nil => simp
  | cons c s ih =>
    obtain ⟨hc, hs⟩ := passes_cons.mp hs
    rw [List.cons_append, segments, if_neg (looksFor_eq_false.mp hc), ih hs, depth_cons,
      Int.add_assoc]
    rfl

/-- An outer comma ends the first segment. -/
theorem segments_comma (rest : List Char) :
    segments 0 (',' :: rest) = ([], (segments 0 rest).1 :: (segments 0 rest).2) := by
  simp [segments]

/-- A piece and the blanks around it stand in front of the first segment of what follows. -/
private theorem segments_padded_append {before piece after : List Char}
    (hbefore : AllBlank before) (hpiece : IsPiece piece) (hafter : AllBlank after)
    (rest : List Char) :
    segments 0 (before ++ piece ++ after ++ rest) =
      (before ++ piece ++ after ++ (segments 0 rest).1, (segments 0 rest).2) := by
  have hbalanced := balanced_between_blanks hbefore hpiece.balanced hafter
  have hcomma : NoOuterComma (before ++ piece ++ after) := by
    have hfront := hbefore.noOuterComma.append hbefore.parenFree.depth_eq_zero hpiece.noOuterComma
    refine hfront.append ?_ hafter.noOuterComma
    rw [depth_append, hbefore.parenFree.depth_eq_zero, hpiece.balanced.total, Int.add_zero]
  rw [segments_append (passes_comma_iff.mpr hcomma), hbalanced.total, Int.add_zero]

/-- The segments of a list are its pieces, with an empty one behind a comma at the end. -/
theorem trim_segments_of_lists {items : List (List Char)} {text : List Char}
    (h : Lists items text) (hitems : ∀ piece ∈ items, IsPiece piece) :
    ((segments 0 text).1 :: (segments 0 text).2).map trim = items ∨
      ((segments 0 text).1 :: (segments 0 text).2).map trim = items ++ [[]] := by
  induction h with
  | @nothing blank hblank =>
    right
    have hsegments := segments_append (passes_comma_iff.mpr hblank.noOuterComma) []
    rw [List.append_nil] at hsegments
    simp [hsegments, segments, trim_eq_nil hblank]
  | @last piece before after hbefore hafter =>
    left
    have hpiece := hitems piece (by simp)
    have hsegments := segments_padded_append hbefore hpiece hafter []
    rw [List.append_nil] at hsegments
    have htrim := trim_between_blanks hbefore hpiece.trimmed hafter
    rw [hsegments]
    simp only [segments, List.append_nil, List.map_cons, htrim, List.map_nil]
  | @more piece before after text pieces hbefore hafter _ ih =>
    have hpiece := hitems piece (by simp)
    have htrim := trim_between_blanks hbefore hpiece.trimmed hafter
    have hall : ((segments 0 (before ++ piece ++ after ++ ',' :: text)).1 ::
        (segments 0 (before ++ piece ++ after ++ ',' :: text)).2).map trim =
        piece :: ((segments 0 text).1 :: (segments 0 text).2).map trim := by
      rw [segments_padded_append hbefore hpiece hafter, segments_comma, List.append_nil,
        List.map_cons, htrim]
    rw [hall]
    rcases ih fun p hp => hitems p (by simp [hp]) with hlater | hlater
    · exact Or.inl (by rw [hlater])
    · exact Or.inr (by rw [hlater, List.cons_append])

/-- Cutting a list at its outermost commas gives its pieces. A last piece that is empty would be
taken for what follows a comma at the end. -/
theorem pieces_of_lists {items : List (List Char)} {text : List Char} (h : Lists items text)
    (hitems : ∀ piece ∈ items, IsPiece piece) (hlast : items.getLast? ≠ some []) :
    pieces text = items := by
  rw [pieces]
  rcases trim_segments_of_lists h hitems with hall | hall
  · simp only [hall, if_neg hlast]
  · simp only [hall, List.getLast?_concat, if_true, List.dropLast_concat]

end NearMiss.Param
