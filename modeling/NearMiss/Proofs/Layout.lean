import NearMiss.Proofs.Blank
import NearMiss.Proofs.Lines
import NearMiss.Proofs.Literal
import Mathlib.Data.List.Forall2

/-!
# How texts are laid out

A text without tabs and without characters that move the cursor or end a line is printed as it is.
In a table such a text takes one line of its cell, with blanks up to the width of the column, if it
does not end with blanks itself. A column is wide enough for each of its cells, so a table of such
texts has one line for each of its rows.
-/

namespace NearMiss.Console

open Text

/-! ## Widths -/

/-- The widths of two texts add up. -/
theorem width_append (s t : List Char) : width (s ++ t) = width s + width t := by
  induction s with
  | nil => exact (Nat.zero_add _).symm
  | cons c s ih =>
    change columns c + width (s ++ t) = columns c + width s + width t
    rw [ih, Nat.add_assoc]

/-- Trimming makes no text wider. -/
theorem width_trimRight_le (s : List Char) : width (trimRight s) ≤ width s := by
  obtain ⟨blanks, -, hs⟩ := exists_trimRight_append s
  have hwidth := congrArg width hs
  rw [width_append] at hwidth
  omega

/-! ## Lines that fit -/

/-- Words hold all that there is in a line, if it has any. -/
theorem flatten_wordsFrom {inside : Bool} {held s : List Char}
    (h : inside = true ∨ ∃ c ∈ s, isBlank c = false) :
    (wordsFrom inside held s).flatten = held.reverse ++ s := by
  induction s generalizing inside held with
  | nil =>
    obtain rfl : inside = true := h.resolve_right (by simp)
    simp [wordsFrom]
  | cons c rest ih =>
    rw [wordsFrom]
    by_cases hc : isBlank c = true
    · have hrest : inside = true ∨ ∃ c ∈ rest, isBlank c = false := by
        refine h.imp_right ?_
        rintro ⟨d, hd, hblank⟩
        rcases List.mem_cons.mp hd with rfl | hd
        · rw [hc] at hblank
          cases hblank
        · exact ⟨d, hd, hblank⟩
      rw [if_pos hc, ih hrest]
      simp
    · rw [if_neg hc]
      split
      · rw [List.flatten_cons, ih (.inl rfl)]
        rfl
      · rw [ih (.inl rfl)]
        simp

/-- A line of blanks has no words. -/
theorem wordsFrom_of_allBlank {s : List Char} (hs : AllBlank s) (held : List Char) :
    wordsFrom false held s = [] := by
  induction s generalizing held with
  | nil => rfl
  | cons c rest ih =>
    obtain ⟨hc, hrest⟩ := List.forall_mem_cons.mp hs
    rw [wordsFrom, if_pos hc, ih hrest]

/-- Words that fit are put on the current line, one behind the other. -/
theorem foldl_put {room : Nat} {mayBreak : Bool} {words : List (List Char)} {filling : Filling}
    (h : filling.used + width words.flatten ≤ room) :
    words.foldl (Filling.put room mayBreak) filling =
      ⟨filling.finished, filling.current ++ words.flatten,
        filling.used + width words.flatten⟩ := by
  induction words generalizing filling with
  | nil =>
    change filling = ⟨filling.finished, filling.current ++ [], filling.used + 0⟩
    rw [List.append_nil, Nat.add_zero]
  | cons word later ih =>
    have hneeded := width_trimRight_le word
    rw [List.flatten_cons, width_append] at h ⊢
    have hput : filling.put room mayBreak word =
        ⟨filling.finished, filling.current ++ word, filling.used + width word⟩ := by
      rw [Filling.put, if_pos (by omega)]
    have hfits : filling.used + width word + width later.flatten ≤ room := by omega
    rw [List.foldl_cons, hput, ih hfits, List.append_assoc, Nat.add_assoc]

/-- A line that fits is not broken. -/
theorem wrap_of_width_le {room : Nat} {s : List Char} (h : width s ≤ room) (mayBreak : Bool) :
    wrap room mayBreak s = [trimExcess room s] := by
  rw [wrap]
  cases hwords : wordsFrom false [] s with
  | nil => rfl
  | cons word later =>
    have hflatten : (word :: later).flatten = s := by
      rw [← hwords]
      refine flatten_wordsFrom (.inr ?_)
      by_contra hnone
      have hblank : AllBlank s := fun c hc => by
        by_contra hother
        exact hnone ⟨c, hc, eq_false_of_ne_true hother⟩
      rw [wordsFrom_of_allBlank hblank] at hwords
      cases hwords
    have hfits : (⟨[], [], 0⟩ : Filling).used + width (word :: later).flatten ≤ room := by
      simpa only [hflatten, Nat.zero_add] using h
    simp only [foldl_put hfits, hflatten]
    rfl

/-- A line that does not end with blanks keeps all its characters. -/
theorem trimExcess_eq_self {s : List Char} (h : trimRight s = s) (room : Nat) :
    trimExcess room s = s := by
  simp only [trimExcess, h, Nat.sub_self, Nat.zero_min, Nat.sub_zero, List.take_length]

/-- A line that fits is only filled up. -/
theorem alignLeft_of_width_le {room : Nat} {s : List Char} (h : width s ≤ room) :
    alignLeft room s = padRight room s := by
  rw [alignLeft, if_neg (by omega)]

/-! ## Steady texts -/

/-- Whether a character is printed as it is and ends no line. -/
def isSteady (c : Char) : Bool :=
  !movesCursor c && c != '\t' && !endsLine c

/-- Text without tabs keeps its characters. -/
theorem expandTabs_eq_self {s : List Char} (hs : '\t' ∉ s) (column : Nat) :
    expandTabs column s = s := by
  induction s generalizing column with
  | nil => rfl
  | cons c rest ih =>
    rw [List.mem_cons, not_or] at hs
    rw [expandTabs, if_neg (Ne.symm hs.1), ih hs.2]

section Steady

variable {s : List Char} (hs : s.all isSteady = true)

include hs

/-- A steady text holds no character that is not steady. -/
theorem not_mem_of_steady {c : Char} (hc : isSteady c = false) : c ∉ s := by
  intro hmem
  rw [List.all_eq_true.mp hs c hmem] at hc
  cases hc

/-- Nothing is left out of a steady text. -/
theorem filter_of_steady : s.filter (!movesCursor ·) = s := by
  refine List.filter_eq_self.mpr fun c hc => ?_
  have hsteady := List.all_eq_true.mp hs c hc
  rw [isSteady, Bool.and_assoc, Bool.and_eq_true] at hsteady
  exact hsteady.1

/-- A steady text is printed as it is, on one line. -/
theorem printedLines_of_steady : printedLines s = [s] := by
  rw [printedLines, filter_of_steady hs, split_of_not_mem (not_mem_of_steady hs (by decide))]
  rw [List.map_singleton, expandTabs_eq_self (not_mem_of_steady hs (by decide))]

/-- A steady text is measured as one line. -/
theorem measure_of_steady : measure s = width s := by
  have hends : ∀ c ∈ s, endsLine c = false := by
    intro c hc
    have hsteady := List.all_eq_true.mp hs c hc
    rw [isSteady, Bool.and_eq_true, Bool.not_eq_true'] at hsteady
    exact hsteady.2
  rw [measure, filter_of_steady hs]
  cases s with
  | nil => rfl
  | cons c rest =>
    rw [lines_of_not_end hends (List.cons_ne_nil c rest)]
    exact Nat.zero_max _

end Steady

/-- The text is printed as it is, on one line, and does not end with blanks. -/
structure Steady (s : List Char) : Prop where
  /-- Every character is printed as it is and ends no line. -/
  chars : s.all isSteady = true
  /-- The last character is not blank. -/
  ended : trimRight s = s

instance decidableSteady (s : List Char) : Decidable (Steady s) :=
  decidable_of_iff (s.all isSteady = true ∧ trimRight s = s)
    ⟨fun h => ⟨h.1, h.2⟩, fun h => ⟨h.chars, h.ended⟩⟩

/-- What a markup shows behind a steady label is printed as it is exactly if it has no markup, where
it is steady and can call for no picture. -/
theorem Shows.printed_iff {markup : String} {label text : List Char} (h : Shows markup label text)
    (hlabel : label.all isSteady = true) (htext : text.all isSteady = true)
    (hcolon : ':' ∉ text) :
    printed markup = .ok (printedText [label ++ text]) ↔ Unmarked text := by
  have hsteady : (label ++ text).all isSteady = true := by
    rw [List.all_append, hlabel, htext]
    rfl
  rw [← h.iff_unmarked hcolon, printed]
  constructor
  · intro hprinted
    cases hvisible : visible markup with
    | error error =>
      rw [hvisible] at hprinted
      cases hprinted
    | ok shown =>
      have hshown : shown.all isSteady = true := by
        refine List.all_eq_true.mpr fun c hc => ?_
        exact List.all_eq_true.mp hsteady c (h.subset hcolon shown hvisible hc)
      rw [hvisible] at hprinted
      have hlines := String.ofList_injective (Except.ok.inj hprinted)
      rw [printedLines_of_steady hshown] at hlines
      simp only [List.flatMap_cons, List.flatMap_nil, List.append_nil] at hlines
      rw [List.append_cancel_right hlines]
  · intro hvisible
    rw [hvisible]
    simp only [Except.map, printedLines_of_steady hsteady, printedText]

/-- Whether every character of the text is printed as it is, wherever it stands. -/
def isVerbatim (s : List Char) : Bool :=
  s.all fun c => isNeutral c && isSteady c

/-- Texts that are printed as they are, one of them styled, are printed as one line. -/
theorem Usable.printed_eq {style lead s behind : List Char} (hstyle : Usable style)
    (hlead : isVerbatim lead = true) (hs : isVerbatim s = true)
    (hbehind : isVerbatim behind = true) {markup : String}
    (hmarkup : markup.toList =
      lead ++ '[' :: (style ++ ']' :: (s ++ '[' :: ('/' :: style ++ ']' :: behind)))) :
    printed markup = .ok (printedText [lead ++ s ++ behind]) := by
  have hplain {t : List Char} (ht : isVerbatim t = true) :
      t.all isNeutral = true ∧ t.all isSteady = true := by
    simp only [isVerbatim, List.all_eq_true, Bool.and_eq_true] at ht ⊢
    exact ⟨fun c hc => (ht c hc).1, fun c hc => (ht c hc).2⟩
  have hneutral {t : List Char} (ht : isVerbatim t = true) :
      (∀ c ∈ t, c ≠ '[' ∧ c ≠ '\\') ∧ withPictures t = t := by
    have hchars : ∀ c ∈ t, (c ≠ '[' ∧ c ≠ '\\') ∧ c ≠ ':' := by
      intro c hc
      have hall := List.all_eq_true.mp (hplain ht).1 c hc
      simpa only [isNeutral, Bool.and_eq_true, bne_iff_ne] using hall
    exact ⟨fun c hc => (hchars c hc).1, withPictures_eq_self fun hmem => (hchars _ hmem).2 rfl⟩
  have hshows : Shows markup (lead ++ s ++ behind) [] := by
    refine hstyle.shows (hneutral hlead).1 (hneutral hs).1 (hneutral hlead).2 (hneutral hs).2
      (hplain hbehind).1 ?_
    rwa [List.append_nil]
  have hsteady : (lead ++ s ++ behind ++ []).all isSteady = true := by
    simp only [List.all_append, (hplain hlead).2, (hplain hs).2, (hplain hbehind).2,
      List.all_nil, Bool.and_self]
  rw [printed, hshows.of_unmarked unmarked_nil]
  change Except.ok (printedText (printedLines (lead ++ s ++ behind ++ []))) = _
  rw [printedLines_of_steady hsteady, List.append_nil]

/-! ## Steady tables -/

namespace Table

/-- A steady cell takes one line if it fits. -/
theorem cellLines_of_steady {room : Nat} {cell : List Char} (hcell : Steady cell)
    (hfits : width cell ≤ room) : cellLines room cell = [padRight room cell] := by
  rw [cellLines, printedLines_of_steady hcell.chars, List.flatMap_singleton,
    wrap_of_width_le hfits, List.map_singleton, trimExcess_eq_self hcell.ended,
    alignLeft_of_width_le hfits]

/-- Steady cells take one line each if they fit. -/
theorem zipWith_cellLines {widths : List Nat} {cells : List (List Char)}
    (h : List.Forall₂ (fun room cell => Steady cell ∧ width cell ≤ room) widths cells) :
    List.zipWith cellLines widths cells =
      (List.zipWith padRight widths cells).map fun content => [content] := by
  induction h with
  | nil => rfl
  | cons hcell _ ih =>
    rw [List.zipWith_cons_cons, cellLines_of_steady hcell.1 hcell.2, ih]
    rfl

/-- Cells of one line are as high as a row is at least. -/
theorem foldl_max_one (contents : List (List Char)) :
    ((contents.map fun content => [content]).map List.length).foldl max 1 = 1 := by
  induction contents with
  | nil => rfl
  | cons content later ih => exact ih

/-- The first lines of cells of one line. -/
theorem zipWith_lineOf {widths : List Nat} {contents : List (List Char)}
    (h : widths.length = contents.length) :
    List.zipWith (lineOf 0) widths (contents.map fun content => [content]) = contents := by
  induction widths generalizing contents with
  | nil => exact (List.length_eq_zero_iff.mp h.symm).symm
  | cons room widths ih =>
    cases contents with
    | nil => cases h
    | cons content later =>
      rw [List.map_cons, List.zipWith_cons_cons, ih (Nat.succ.inj h)]
      rfl

/-- A row of steady cells takes one line if they fit. -/
theorem rowLines_of_steady (rule : Rule) {widths : List Nat} {cells : List (List Char)}
    (h : List.Forall₂ (fun room cell => Steady cell ∧ width cell ≤ room) widths cells) :
    rowLines rule widths cells = [rule.draw (List.zipWith padRight widths cells)] := by
  have hlength : widths.length = (List.zipWith padRight widths cells).length := by
    rw [List.length_zipWith, h.length_eq, Nat.min_self]
  simp only [rowLines, zipWith_cellLines h, foldl_max_one]
  rw [List.range_one, List.map_singleton, zipWith_lineOf hlength]

/-- Every column has room for what stands in it. -/
def HasRoom {α : Type} (need : α → Nat) (widths : List Nat) (row : List α) : Prop :=
  List.Forall₂ (fun room x => need x ≤ room) widths row

/-- Columns that have grown still have room. -/
theorem HasRoom.trans {α : Type} {need : α → Nat} {before after : List Nat} {row : List α}
    (hgrown : HasRoom id after before) (h : HasRoom need before row) :
    HasRoom need after row := by
  rw [HasRoom] at hgrown h ⊢
  induction hgrown generalizing row with
  | nil => exact h
  | cons hle _ ih =>
    cases h with
    | cons hneed hlater => exact .cons (Nat.le_trans hneed hle) (ih hlater)

/-- Columns grow with a row, and then they have room for it. -/
theorem hasRoom_zipWith_max {widths : List Nat} {row : List (List Char)}
    (h : row.length = widths.length) :
    HasRoom id (List.zipWith max widths (row.map measure)) widths ∧
      HasRoom measure (List.zipWith max widths (row.map measure)) row := by
  induction widths generalizing row with
  | nil =>
    rw [List.length_eq_zero_iff.mp h]
    exact ⟨.nil, .nil⟩
  | cons room widths ih =>
    cases row with
    | nil => cases h
    | cons cell row =>
      obtain ⟨hgrown, hrow⟩ := ih (Nat.succ.inj h)
      exact ⟨.cons (Nat.le_max_left ..) hgrown, .cons (Nat.le_max_right ..) hrow⟩

/-- Columns grow row by row, and then they have room for all rows. -/
theorem hasRoom_foldl_max {widths : List Nat} {rows : List (List (List Char))}
    (h : ∀ row ∈ rows, row.length = widths.length) {after : List Nat}
    (hafter : rows.foldl (fun widths row => List.zipWith max widths (row.map measure)) widths =
      after) :
    HasRoom id after widths ∧ ∀ row ∈ rows, HasRoom measure after row := by
  induction rows generalizing widths with
  | nil =>
    subst hafter
    exact ⟨List.forall₂_same.mpr fun _ _ => Nat.le_refl _, nofun⟩
  | cons row rows ih =>
    obtain ⟨hrow, hrows⟩ := List.forall_mem_cons.mp h
    obtain ⟨hgrown, hfits⟩ := hasRoom_zipWith_max hrow
    have hlength := hgrown.length_eq.symm
    obtain ⟨hlater, hall⟩ := ih (fun other hother => (hrows other hother).trans hlength) hafter
    exact ⟨hlater.trans hgrown, List.forall_mem_cons.mpr ⟨hlater.trans hfits, hall⟩⟩

/-- Every column has room for all its cells. -/
theorem hasRoom_columnWidths {headers : List (List Char)} {rows : List (List (List Char))}
    (h : ∀ row ∈ rows, row.length = headers.length) :
    ∀ row ∈ headers :: rows, HasRoom measure (columnWidths headers rows) row := by
  have hheaders : HasRoom measure (headers.map measure) headers :=
    List.forall₂_map_left_iff.mpr (List.forall₂_same.mpr fun _ _ => Nat.le_refl _)
  have hlength : ∀ row ∈ rows, row.length = (headers.map measure).length := by
    simpa only [List.length_map] using h
  obtain ⟨hgrown, hall⟩ := hasRoom_foldl_max hlength rfl
  exact List.forall_mem_cons.mpr ⟨hgrown.trans hheaders, hall⟩

/-- The lines of a table each of whose rows takes one line: its cells filled up with blanks to the
widths of their columns. -/
def singleLines (title : Option (List Char)) (headers : List (List Char))
    (rows : List (List (List Char))) : List (List Char) :=
  let widths := columnWidths headers rows
  let room := (top.stroke widths).length
  ((title.map (titleLines room)).getD []) ++ [top.stroke widths] ++
    [beside.draw (List.zipWith padRight widths headers)] ++ [below.stroke widths] ++
    rows.map (fun row => plain.draw (List.zipWith padRight widths row)) ++ [bottom.stroke widths]

/-- A table of steady texts has one line for each of its rows. -/
theorem drawnLines_of_steady (title : Option (List Char)) {headers : List (List Char)}
    {rows : List (List (List Char))} (hlength : ∀ row ∈ rows, row.length = headers.length)
    (hsteady : ∀ row ∈ headers :: rows, ∀ cell ∈ row, Steady cell) :
    drawnLines title headers rows = singleLines title headers rows := by
  have hfits : ∀ row ∈ headers :: rows,
      List.Forall₂ (fun room cell => Steady cell ∧ width cell ≤ room)
        (columnWidths headers rows) row := by
    intro row hrow
    have hroom := hasRoom_columnWidths hlength row hrow
    refine List.forall₂_iff_zip.mpr ⟨hroom.length_eq, fun {room cell} hmem => ?_⟩
    have hcell := hsteady row hrow cell (List.of_mem_zip hmem).2
    refine ⟨hcell, ?_⟩
    rw [← measure_of_steady hcell.chars]
    exact List.forall₂_zip hroom hmem
  obtain ⟨hheaders, hrows⟩ := List.forall_mem_cons.mp hfits
  have hbody : rows.flatMap (rowLines plain (columnWidths headers rows)) =
      rows.map fun row => plain.draw (List.zipWith padRight (columnWidths headers rows) row) := by
    rw [← List.flatMap_singleton' (rows.map _), List.flatMap_map]
    exact List.flatMap_congr fun row hrow => rowLines_of_steady plain (hrows row hrow)
  simp only [drawnLines, singleLines, rowLines_of_steady beside hheaders, hbody]

end Table

end NearMiss.Console
