import NearMiss.Proofs.Pieces
import NearMiss.Proofs.Positions
import Mathlib.Logic.Relation

/-!
# Cutting and joining

A text falls into stretches at its commas at depth zero. The depth is not clamped: behind a paren
that closes nothing it is negative, and a comma there parts nothing. Each stretch but the last
leads back to depth zero, so the commas between the stretches are all that there are at this depth.
The pieces are the trimmed stretches, less a last one that is blank. Joining them gives the text
back up to the blanks beside these commas and at the ends, and up to one comma at the end.
-/

namespace NearMiss

namespace Text

/-! ## Commas at depth zero -/

/-- Whether a comma at depth zero stands at a position. -/
def isOuterComma (s : List Char) (k : Nat) : Bool :=
  s[k]? == some ',' && depth (s.take k) == 0

/-- The positions of the commas at depth zero. -/
def outerCommas (s : List Char) : List Nat :=
  (List.range s.length).filter (isOuterComma s)

/-- The text behind the last comma at depth zero; the whole text if there is no such comma. -/
def lastStretch (s : List Char) : List Char :=
  s.drop ((outerCommas s).getLast?.elim 0 (· + 1))

/-- An outer comma stands at a position where nothing is open. -/
theorem isOuterComma_eq_true {s : List Char} {k : Nat} :
    isOuterComma s k = true ↔ s[k]? = some ',' ∧ depth (s.take k) = 0 := by
  simp [isOuterComma]

/-- A text without outer commas has no positions of them. -/
theorem outerCommas_eq_nil {s : List Char} (hs : NoOuterComma s) : outerCommas s = [] := by
  refine List.filter_eq_nil_iff.mpr fun k _ hcomma => ?_
  obtain ⟨hk, hdepth⟩ := isOuterComma_eq_true.mp hcomma
  have hpass := passes_iff_forall_getElem?.mp (passes_comma_iff.mpr hs) k ',' hk
  simp [hdepth] at hpass

/-- Before the end of a text nothing behind it matters. -/
theorem isOuterComma_append_left {s : List Char} {k : Nat} (hk : k < s.length) (t : List Char) :
    isOuterComma (s ++ t) k = isOuterComma s k := by
  rw [isOuterComma, isOuterComma, List.getElem?_append_left hk,
    List.take_append_of_le_length (Nat.le_of_lt hk)]

/-- Behind a text that leads back to depth zero the commas are those of what follows. -/
theorem isOuterComma_append_right {s : List Char} (hdepth : depth s = 0) (t : List Char)
    (k : Nat) : isOuterComma (s ++ t) (s.length + k) = isOuterComma t k := by
  rw [isOuterComma, isOuterComma, List.getElem?_append_right (Nat.le_add_right _ _),
    Nat.add_sub_cancel_left, List.take_length_add_append, depth_append, hdepth, Int.zero_add]

/-- The commas of what follows a text that leads back to depth zero stand behind its own. -/
theorem outerCommas_append {s : List Char} (hdepth : depth s = 0) (t : List Char) :
    outerCommas (s ++ t) = outerCommas s ++ (outerCommas t).map (s.length + ·) := by
  have hleft : (List.range s.length).filter (isOuterComma (s ++ t)) = outerCommas s :=
    List.filter_congr fun k hk => isOuterComma_append_left (List.mem_range.mp hk) t
  have hright : isOuterComma (s ++ t) ∘ (s.length + ·) = isOuterComma t :=
    funext fun k => isOuterComma_append_right hdepth t k
  rw [outerCommas, List.length_append, List.range_add, List.filter_append, List.filter_map, hleft,
    hright, outerCommas, outerCommas]

/-- The first comma at depth zero, and those behind it. -/
theorem outerCommas_append_comma {s : List Char} (hs : NoOuterComma s) (hdepth : depth s = 0)
    (t : List Char) :
    outerCommas (s ++ ',' :: t) =
      s.length :: (outerCommas t).map fun k => s.length + (1 + k) := by
  have hcomma : outerCommas [','] = [0] := by decide
  have hback : depth [','] = 0 := by decide
  rw [outerCommas_append hdepth, outerCommas_eq_nil hs, ← List.singleton_append,
    outerCommas_append hback, hcomma, List.map_append, List.map_map]
  rfl

/-- Without outer commas the last stretch is the whole text. -/
theorem lastStretch_eq_self {s : List Char} (hs : NoOuterComma s) : lastStretch s = s := by
  rw [lastStretch, outerCommas_eq_nil hs]
  rfl

/-- An outer comma ends a stretch, and the last one comes behind it. -/
theorem lastStretch_append_comma {s : List Char} (hs : NoOuterComma s) (hdepth : depth s = 0)
    (t : List Char) : lastStretch (s ++ ',' :: t) = lastStretch t := by
  rw [lastStretch, lastStretch, outerCommas_append_comma hs hdepth, List.getLast?_cons,
    List.getLast?_map]
  cases (outerCommas t).getLast? with
  | none => simp
  | some k =>
    have hplace : s.length + (1 + k) + 1 = s.length + (k + 1 + 1) := by omega
    simp only [Option.map_some, Option.getD_some, Option.elim_some, hplace,
      List.drop_length_add_append, List.drop_succ_cons]

/-! ## Blanks that do not count -/

/-- One blank is taken away, at an end of the text or beside a comma at depth zero. -/
inductive DropsBlank : List Char → List Char → Prop
  /-- A blank at the front. -/
  | front {c : Char} {s : List Char} (hc : isBlank c = true) : DropsBlank (c :: s) s
  /-- A blank at the end. -/
  | back {c : Char} {s : List Char} (hc : isBlank c = true) : DropsBlank (s ++ [c]) s
  /-- A blank before a comma. -/
  | beforeComma {c : Char} {s t : List Char} (hc : isBlank c = true) (hdepth : depth s = 0) :
      DropsBlank (s ++ c :: ',' :: t) (s ++ ',' :: t)
  /-- A blank behind a comma. -/
  | afterComma {c : Char} {s t : List Char} (hc : isBlank c = true) (hdepth : depth s = 0) :
      DropsBlank (s ++ ',' :: c :: t) (s ++ ',' :: t)

/-- Two texts differ only in blanks at the ends and beside commas at depth zero, which the first has
and the second has not. -/
def Tightens : List Char → List Char → Prop :=
  Relation.ReflTransGen DropsBlank

/-- A text is tightened to itself. -/
theorem Tightens.refl (s : List Char) : Tightens s s :=
  Relation.ReflTransGen.refl

/-- Blanks are dropped one after the other. -/
theorem Tightens.trans {s t u : List Char} (hst : Tightens s t) (htu : Tightens t u) :
    Tightens s u :=
  Relation.ReflTransGen.trans hst htu

/-- One blank is dropped first, others later. -/
theorem DropsBlank.trans {s t u : List Char} (hst : DropsBlank s t) (htu : Tightens t u) :
    Tightens s u :=
  Relation.ReflTransGen.head hst htu

/-- A text behind which a stretch begins: nothing, or a comma at depth zero at its end. -/
inductive BeginsStretch : List Char → Prop
  /-- The first stretch. -/
  | first : BeginsStretch []
  /-- A later stretch. -/
  | later {s : List Char} (hdepth : depth s = 0) : BeginsStretch (s ++ [','])

/-- Where a stretch begins nothing is open. -/
theorem BeginsStretch.depth_eq_zero {s : List Char} (hs : BeginsStretch s) : depth s = 0 := by
  cases hs with
  | first => rfl
  | later hdepth => rw [depth_append, hdepth]; rfl

/-- Blanks at the beginning of a stretch do not count. -/
theorem Tightens.leading {before blank : List Char} (hbefore : BeginsStretch before)
    (hblank : AllBlank blank) (t : List Char) :
    Tightens (before ++ (blank ++ t)) (before ++ t) := by
  induction blank with
  | nil => exact .refl _
  | cons c blank ih =>
    have hc : isBlank c = true := hblank c (by simp)
    refine DropsBlank.trans ?_ (ih fun d hd => hblank d (by simp [hd]))
    cases hbefore with
    | first => exact .front hc
    | later hdepth => simpa using DropsBlank.afterComma (t := blank ++ t) hc hdepth

/-- Blanks at the end of a stretch that a comma follows do not count. -/
theorem Tightens.trailing {s blank : List Char} (hdepth : depth s = 0) (hblank : AllBlank blank)
    (t : List Char) : Tightens (s ++ (blank ++ ',' :: t)) (s ++ ',' :: t) := by
  induction blank using List.reverseRecOn with
  | nil => exact .refl _
  | append_singleton blank c ih =>
    have hfront : AllBlank blank := fun d hd => hblank d (by simp [hd])
    have hc : isBlank c = true := hblank c (by simp)
    have hbefore : depth (s ++ blank) = 0 := by
      rw [depth_append, hdepth, hfront.parenFree.depth_eq_zero, Int.add_zero]
    refine DropsBlank.trans ?_ (ih hfront)
    simpa using DropsBlank.beforeComma (t := t) hc hbefore

/-- Blanks at the end of the text do not count. -/
theorem Tightens.last {blank : List Char} (s : List Char) (hblank : AllBlank blank) :
    Tightens (s ++ blank) s := by
  induction blank using List.reverseRecOn with
  | nil => simpa using Tightens.refl s
  | append_singleton blank c ih =>
    refine DropsBlank.trans ?_ (ih fun d hd => hblank d (by simp [hd]))
    simpa using DropsBlank.back (s := s ++ blank) (hblank c (by simp))

/-- No blank is a paren, so trimming keeps the depth. -/
theorem depth_trim (s : List Char) : depth (trim s) = depth s := by
  obtain ⟨lead, trail, hlead, htrail, hsplit⟩ := exists_between_blanks s
  have hsum := congrArg depth hsplit
  rw [depth_append, depth_append, hlead.parenFree.depth_eq_zero,
    htrail.parenFree.depth_eq_zero] at hsum
  omega

/-- A trimmed stretch that led back to depth zero still does. -/
theorem BeginsStretch.depth_append_trim {before s : List Char} (hbefore : BeginsStretch before)
    (hs : depth s = 0) : depth (before ++ trim s) = 0 := by
  rw [depth_append, hbefore.depth_eq_zero, depth_trim, hs, Int.add_zero]

/-- The blanks at both ends of a stretch do not count. -/
theorem Tightens.stretch {before s : List Char} (hbefore : BeginsStretch before)
    (hdepth : depth s = 0) (t : List Char) :
    Tightens (before ++ (s ++ ',' :: t)) (before ++ (trim s ++ ',' :: t)) := by
  obtain ⟨lead, trail, hlead, htrail, hsplit⟩ := exists_between_blanks s
  have htext : s ++ ',' :: t = lead ++ (trim s ++ (trail ++ ',' :: t)) := by
    rw [← List.append_assoc, ← List.append_assoc, ← hsplit]
  have htrailing := Tightens.trailing (hbefore.depth_append_trim hdepth) htrail t
  rw [List.append_assoc, List.append_assoc] at htrailing
  rw [htext]
  exact (Tightens.leading hbefore hlead _).trans htrailing

/-- The blanks at both ends of the last stretch do not count. -/
theorem Tightens.lastStretch {before : List Char} (hbefore : BeginsStretch before)
    (s : List Char) : Tightens (before ++ s) (before ++ trim s) := by
  obtain ⟨lead, trail, hlead, htrail, hsplit⟩ := exists_between_blanks s
  have hleading := Tightens.leading hbefore hlead (trim s ++ trail)
  have htrailing := Tightens.last (before ++ trim s) htrail
  rw [← List.append_assoc lead, ← hsplit] at hleading
  rw [List.append_assoc] at htrailing
  exact hleading.trans htrailing

/-! ## Stretches -/

/-- A text falls into stretches at its commas at depth zero: no stretch has such a comma, and each
but the last leads back to depth zero. -/
inductive FallsInto : List Char → List (List Char) → Prop
  /-- A text without such a comma. -/
  | last {s : List Char} (hs : NoOuterComma s) : FallsInto s [s]
  /-- The text before the first such comma, and the stretches behind it. -/
  | more {s text : List Char} {later : List (List Char)} (hs : NoOuterComma s)
      (hdepth : depth s = 0) (hlater : FallsInto text later) :
      FallsInto (s ++ ',' :: text) (s :: later)

namespace FallsInto

variable {text : List Char} {stretches : List (List Char)}

/-- A text falls into at least one stretch. -/
theorem ne_nil (h : FallsInto text stretches) : stretches ≠ [] := by
  cases h <;> simp

/-- There is a comma between any two stretches, and no other at depth zero. -/
theorem length_eq (h : FallsInto text stretches) :
    stretches.length = (outerCommas text).length + 1 := by
  induction h with
  | last hs => rw [outerCommas_eq_nil hs]; rfl
  | more hs hdepth _ ih =>
    rw [outerCommas_append_comma hs hdepth, List.length_cons, List.length_cons, List.length_map, ih]

/-- The last of the stretches is what stands behind the last outer comma. -/
theorem getLast_eq (h : FallsInto text stretches) :
    stretches.getLast h.ne_nil = lastStretch text := by
  induction h with
  | last hs => exact (lastStretch_eq_self hs).symm
  | more hs hdepth hlater ih =>
    rw [lastStretch_append_comma hs hdepth, List.getLast_cons hlater.ne_nil, ih]

/-- The stretches are trimmed one after the other. What stands before a stretch is kept, so that the
commas are at depth zero in the whole text. -/
theorem tightens_behind (h : FallsInto text stretches) {before : List Char}
    (hbefore : BeginsStretch before) :
    Tightens (before ++ text) (before ++ [','].intercalate (stretches.map trim)) := by
  induction h generalizing before with
  | @last s hs =>
    rw [List.map_singleton, List.intercalate_singleton]
    exact Tightens.lastStretch hbefore s
  | @more s text later hs hdepth hlater ih =>
    have hne : later.map trim ≠ [] := by simpa using hlater.ne_nil
    have hbehind := ih (BeginsStretch.later (hbefore.depth_append_trim hdepth))
    rw [List.map_cons, List.intercalate_cons_of_ne_nil hne]
    refine (Tightens.stretch hbefore hdepth text).trans ?_
    simpa using hbehind

end FallsInto

end Text

namespace Param

open Text

/-- The stretches of a text, from which its pieces are taken. -/
def stretches (text : List Char) : List (List Char) :=
  (segments 0 text).1 :: (segments 0 text).2

/-- A text falls into the segments that are cut off. The first of them continues what has been
passed over so far, which is why the depth where the walk stands is that of the passed text. -/
theorem fallsInto_segments {passed : List Char} (hpassed : NoOuterComma passed)
    (text : List Char) :
    FallsInto (passed ++ text)
      ((passed ++ (segments (depth passed) text).1) :: (segments (depth passed) text).2) := by
  induction text generalizing passed with
  | nil => simpa [segments] using FallsInto.last hpassed
  | cons c text ih =>
    by_cases hc : c = ',' ∧ depth passed = 0
    · obtain ⟨rfl, hdepth⟩ := hc
      have hlater := @ih [] (by decide)
      rw [hdepth, segments_comma, List.append_nil]
      exact .more hpassed hdepth hlater
    · have hlonger : NoOuterComma (passed ++ [c]) := by
        rw [← passes_comma_iff, passes_append, passes_cons]
        refine ⟨passes_comma_iff.mpr hpassed, ?_, passes_nil _ _⟩
        rw [looksFor_eq_false, Int.zero_add]
        exact hc
      have hlater := ih hlonger
      rw [depth_append, depth_cons, depth_nil, Int.add_zero] at hlater
      rw [segments, if_neg hc]
      simpa using hlater

/-- A text falls into its stretches. -/
theorem fallsInto_stretches (text : List Char) : FallsInto text (stretches text) :=
  @fallsInto_segments [] (by decide) text

/-- The pieces are the trimmed stretches, less a last one that is blank. -/
theorem pieces_eq_map_trim (text : List Char) :
    pieces text =
      if AllBlank (lastStretch text) then (stretches text).dropLast.map trim
      else (stretches text).map trim := by
  have hne := (fallsInto_stretches text).ne_nil
  have hlast : ((stretches text).map trim).getLast? = some (trim (lastStretch text)) := by
    rw [List.getLast?_map, List.getLast?_eq_some_getLast hne, (fallsInto_stretches text).getLast_eq,
      Option.map_some]
  have hpieces : pieces text =
      if ((stretches text).map trim).getLast? = some [] then ((stretches text).map trim).dropLast
      else (stretches text).map trim := rfl
  simp only [hpieces, hlast, Option.some.injEq, trim_eq_nil_iff, List.map_dropLast]

/-- Pieces are trimmed. -/
theorem trimmed_of_mem_pieces {text piece : List Char} (h : piece ∈ pieces text) :
    Trimmed piece := by
  rw [pieces_eq_map_trim] at h
  split at h
  · obtain ⟨stretch, -, rfl⟩ := List.mem_map.mp h
    exact trimmed_trim stretch
  · obtain ⟨stretch, -, rfl⟩ := List.mem_map.mp h
    exact trimmed_trim stretch

/-- There are as many pieces as commas at depth zero, and one more if something is left behind the
last of these. -/
theorem length_pieces (text : List Char) :
    (pieces text).length =
      (outerCommas text).length + if AllBlank (lastStretch text) then 0 else 1 := by
  have hlength := (fallsInto_stretches text).length_eq
  rw [pieces_eq_map_trim]
  split
  · rw [List.length_map, List.length_dropLast, hlength]
    rfl
  · rw [List.length_map, hlength]

/-- An empty part at the end adds a comma. -/
theorem intercalate_append_nil {parts : List (List Char)} (hne : parts ≠ []) :
    [','].intercalate (parts ++ [[]]) = [','].intercalate parts ++ [','] := by
  induction parts with
  | nil => exact absurd rfl hne
  | cons part parts ih =>
    cases parts with
    | nil => simp
    | cons next parts =>
      have hlater := ih (by simp)
      rw [List.cons_append, List.cons_append, List.intercalate_cons_cons,
        List.intercalate_cons_cons, ← List.cons_append, hlater, ← List.append_assoc]

/-- Joining the pieces gives the joined stretches, up to a comma before a blank end. -/
theorem intercalate_pieces (text : List Char) :
    [','].intercalate ((stretches text).map trim) =
      [','].intercalate (pieces text) ++
        if outerCommas text ≠ [] ∧ AllBlank (lastStretch text) then [','] else [] := by
  have hfalls := fallsInto_stretches text
  rw [pieces_eq_map_trim]
  by_cases hblank : AllBlank (lastStretch text)
  · have hsplit : (stretches text).map trim = (stretches text).dropLast.map trim ++ [[]] := by
      rw [← trim_eq_nil hblank, ← hfalls.getLast_eq, ← List.map_singleton, ← List.map_append,
        List.dropLast_append_getLast]
    have hlength : (stretches text).dropLast.length = (outerCommas text).length := by
      rw [List.length_dropLast, hfalls.length_eq, Nat.add_sub_cancel]
    rw [if_pos hblank, hsplit]
    by_cases hcommas : outerCommas text = []
    · have hnone : (stretches text).dropLast = [] := by
        rw [← List.length_eq_zero_iff, hlength, hcommas, List.length_nil]
      simp [hcommas, hnone]
    · have hsome : (stretches text).dropLast.map trim ≠ [] := by
        rw [ne_eq, List.map_eq_nil_iff, ← List.length_eq_zero_iff, hlength,
          List.length_eq_zero_iff]
        exact hcommas
      rw [if_pos ⟨hcommas, hblank⟩, intercalate_append_nil hsome]
  · rw [if_neg hblank, if_neg fun h => hblank h.2, List.append_nil]

/-- Cutting inverts joining, and joining inverts cutting up to what does not count. A text that
lists pieces is cut into them, with any blanks around them and with or without a comma at the end.
Any text is cut at its commas at depth zero and nowhere else: each of them ends a piece, and what
follows the last of them is a piece unless it is blank. The pieces joined by commas are the text
without the blanks beside these commas and at the ends, and without the comma before a blank end. -/
theorem pieces_cut_and_joined (text : List Char) :
    (∀ items, (∀ piece ∈ items, IsPiece piece) → items.getLast? ≠ some [] → Lists items text →
      pieces text = items) ∧
    (∃ stretches, FallsInto text stretches ∧
      pieces text = if AllBlank (lastStretch text) then stretches.dropLast.map trim
        else stretches.map trim) ∧
    (pieces text).length =
      (outerCommas text).length + (if AllBlank (lastStretch text) then 0 else 1) ∧
    Tightens text ([','].intercalate (pieces text) ++
      if outerCommas text ≠ [] ∧ AllBlank (lastStretch text) then [','] else []) := by
  have hfalls := fallsInto_stretches text
  refine ⟨fun items hitems hlast h => pieces_of_lists h hitems hlast,
    ⟨stretches text, hfalls, pieces_eq_map_trim text⟩, length_pieces text, ?_⟩
  rw [← intercalate_pieces]
  exact hfalls.tightens_behind .first

/-- An empty piece between two others, commas in the parens of a piece, and a comma at the end. -/
theorem pieces_cut_and_joined_callback :
    let text := "ctx C ,, f func(a, b int)\t,".toList
    let items := ["ctx C".toList, [], "f func(a, b int)".toList]
    (∀ piece ∈ items, IsPiece piece) ∧ Lists items text ∧ pieces text = items ∧
      (pieces text).length = (outerCommas text).length ∧
      Tightens text "ctx C,,f func(a, b int),".toList := by
  intro text items
  have hitems : ∀ piece ∈ items, IsPiece piece := by decide
  have hlists : Lists items text :=
    @Lists.more _ [] [' '] _ _ (by decide) (by decide)
      (@Lists.more _ [] [] _ _ (by decide) (by decide)
        (@Lists.more _ [' '] ['\t'] _ _ (by decide) (by decide)
          (@Lists.nothing [] (by decide))))
  have hend : outerCommas text ≠ [] ∧ AllBlank (lastStretch text) := by decide
  obtain ⟨hcut, -, hlength, htight⟩ := pieces_cut_and_joined text
  have hpieces : pieces text = items := hcut items hitems (by decide) hlists
  rw [if_pos hend.2, Nat.add_zero] at hlength
  rw [if_pos hend, hpieces] at htight
  exact ⟨hitems, hlists, hpieces, hlength, htight⟩

example : pieces "a),b(,c".toList = ["a),b(".toList, "c".toList] := by decide

end Param

end NearMiss
