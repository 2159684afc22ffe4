import NearMiss.Text.Blank
import Mathlib.Data.List.Basic
import Mathlib.Data.List.TakeWhile

/-!
# Blanks at the ends of a text

A text in blanks is trimmed to itself, a trimmed end is the text up to blanks, and the first word of
a text is found whatever blanks follow it. Trimming at the right end never reaches past a character
that is no blank.
-/

namespace NearMiss.Text

/-- A run of blanks, possibly empty. -/
def AllBlank (s : List Char) : Prop :=
  ∀ c ∈ s, isBlank c = true

/-- A text without blanks. -/
def BlankFree (s : List Char) : Prop :=
  ∀ c ∈ s, isBlank c = false

/-- A text that neither begins nor ends with a blank. -/
structure Trimmed (s : List Char) : Prop where
  /-- It does not begin with a blank. -/
  head : ∀ c ∈ s.head?, isBlank c = false
  /-- It does not end with a blank. -/
  last : ∀ c ∈ s.getLast?, isBlank c = false

instance (s : List Char) : Decidable (AllBlank s) :=
  List.decidableBAll (fun c => isBlank c = true) s

instance (s : List Char) : Decidable (BlankFree s) :=
  List.decidableBAll (fun c => isBlank c = false) s

instance (s : List Char) : Decidable (Trimmed s) :=
  decidable_of_iff (s.head?.all (!isBlank ·) ∧ s.getLast?.all (!isBlank ·))
    ⟨fun h => ⟨by simpa [Option.all_eq_true] using h.1, by simpa [Option.all_eq_true] using h.2⟩,
      fun h => ⟨by simpa [Option.all_eq_true] using h.head,
        by simpa [Option.all_eq_true] using h.last⟩⟩

/-- The empty text has only blanks. -/
theorem allBlank_nil : AllBlank [] := by decide

/-- Blanks behind blanks are blanks. -/
theorem AllBlank.append {s t : List Char} (hs : AllBlank s) (ht : AllBlank t) :
    AllBlank (s ++ t) := by
  intro c hc
  rcases List.mem_append.mp hc with hc | hc
  · exact hs c hc
  · exact ht c hc

/-- A text without blanks is trimmed. -/
theorem BlankFree.trimmed {s : List Char} (hs : BlankFree s) : Trimmed s where
  head c hc := hs c (List.mem_of_head? hc)
  last c hc := hs c (List.mem_of_getLast? hc)

/-- Blanks in front are trimmed off. -/
theorem trimLeft_append_of_allBlank {blank : List Char} (hblank : AllBlank blank)
    (s : List Char) : trimLeft (blank ++ s) = trimLeft s :=
  List.dropWhile_append_of_pos hblank

/-- A text that begins with no blank is not trimmed in front. -/
theorem trimLeft_eq_self {s : List Char} (h : ∀ c ∈ s.head?, isBlank c = false) :
    trimLeft s = s := by
  cases s with
  | nil => rfl
  | cons c s => exact trimLeft_cons_of_not_blank (h c rfl)

/-- Blanks at the end are trimmed off. -/
theorem trimRight_append_of_allBlank {blank : List Char} (hblank : AllBlank blank)
    (s : List Char) : trimRight (s ++ blank) = trimRight s := by
  have hrev : ∀ c ∈ blank.reverse, isBlank c = true := fun c hc => hblank c (by simpa using hc)
  rw [trimRight, List.reverse_append, List.dropWhile_append_of_pos hrev, trimRight]

/-- A text that ends with no blank is not trimmed at the end. -/
theorem trimRight_eq_self {s : List Char} (h : ∀ c ∈ s.getLast?, isBlank c = false) :
    trimRight s = s := by
  have hrev : trimLeft s.reverse = s.reverse := trimLeft_eq_self (by simpa using h)
  rw [trimRight]
  exact (congrArg List.reverse hrev).trans s.reverse_reverse

/-- Trimming the right end takes away blanks only. -/
theorem exists_trimRight_append (s : List Char) :
    ∃ blank, AllBlank blank ∧ s = trimRight s ++ blank := by
  refine ⟨(s.reverse.takeWhile isBlank).reverse, ?_, ?_⟩
  · intro c hc
    exact List.all_eq_true.mp List.all_takeWhile c (List.mem_reverse.mp hc)
  · rw [trimRight, ← List.reverse_append, List.takeWhile_append_dropWhile, List.reverse_reverse]

/-- Trimming the right end keeps a first character that is no blank. -/
theorem exists_trimRight_cons {c : Char} (hc : isBlank c = false) (t : List Char) :
    ∃ kept, trimRight (c :: t) = c :: kept := by
  obtain ⟨blank, hblank, ht⟩ := exists_trimRight_append (c :: t)
  cases htrim : trimRight (c :: t) with
  | nil =>
    rw [htrim, List.nil_append] at ht
    have hblankc := hblank c (by simp [← ht])
    simp [hc] at hblankc
  | cons d kept =>
    rw [htrim, List.cons_append] at ht
    exact ⟨kept, by rw [(List.cons.inj ht).1]⟩

/-- Trimming the right end stops at a character that is no blank. -/
theorem trimRight_append_cons {c : Char} (hc : isBlank c = false) (s t : List Char) :
    trimRight (s ++ c :: t) = s ++ trimRight (c :: t) := by
  obtain ⟨blank, hblank, ht⟩ := exists_trimRight_append (c :: t)
  obtain ⟨kept, hkept⟩ := exists_trimRight_cons hc t
  have hlast : ∀ d ∈ (s ++ trimRight (c :: t)).getLast?, isBlank d = false := by
    rw [List.getLast?_append_of_ne_nil _ (by simp [hkept])]
    exact fun d hd => isBlank_getLast?_trimRight (c :: t) d hd
  calc
    trimRight (s ++ c :: t) = trimRight (s ++ trimRight (c :: t) ++ blank) := by
      rw [List.append_assoc, ← ht]
    _ = trimRight (s ++ trimRight (c :: t)) := trimRight_append_of_allBlank hblank _
    _ = s ++ trimRight (c :: t) := trimRight_eq_self hlast

/-- Trimming the left end takes away blanks only. -/
theorem exists_append_trimLeft (s : List Char) :
    ∃ blank, AllBlank blank ∧ s = blank ++ trimLeft s := by
  refine ⟨s.takeWhile isBlank, ?_, ?_⟩
  · exact fun c hc => List.all_eq_true.mp List.all_takeWhile c hc
  · rw [trimLeft, List.takeWhile_append_dropWhile]

/-- What is left after trimming the front does not begin with a blank. -/
theorem isBlank_head?_trimLeft (s : List Char) :
    ∀ c ∈ (trimLeft s).head?, isBlank c = false := by
  intro c hc
  have hne : s.dropWhile isBlank ≠ [] := by
    intro hnil
    simp [trimLeft, hnil] at hc
  have hhead := List.head_dropWhile_not isBlank hne
  rw [trimLeft, List.head?_eq_some_head hne] at hc
  cases hc
  simpa using hhead

/-- Trimming takes away blanks only. -/
theorem exists_between_blanks (s : List Char) :
    ∃ before after, AllBlank before ∧ AllBlank after ∧ s = before ++ trim s ++ after := by
  obtain ⟨before, hbefore, hleft⟩ := exists_append_trimLeft s
  obtain ⟨after, hafter, hright⟩ := exists_trimRight_append (trimLeft s)
  refine ⟨before, after, hbefore, hafter, ?_⟩
  rw [trim, List.append_assoc, ← hright, ← hleft]

/-- What is left between the blanks at the two ends begins and ends with none. -/
theorem trimmed_trim (s : List Char) : Trimmed (trim s) where
  head c hc := by
    rw [trim] at hc
    cases hleft : trimLeft s with
    | nil => simp [hleft, trimRight] at hc
    | cons d rest =>
      have hd : isBlank d = false := isBlank_head?_trimLeft s d (by rw [hleft]; rfl)
      obtain ⟨kept, hkept⟩ := exists_trimRight_cons hd rest
      rw [hleft, hkept] at hc
      exact Option.some.inj hc ▸ hd
  last c hc := isBlank_getLast?_trimRight (trimLeft s) c hc

/-- A trimmed text is found again between blanks. -/
theorem trim_between_blanks {before s after : List Char} (hbefore : AllBlank before)
    (hs : Trimmed s) (hafter : AllBlank after) : trim (before ++ s ++ after) = s := by
  rw [trim, List.append_assoc, trimLeft_append_of_allBlank hbefore]
  cases s with
  | nil =>
    have hnil : trimLeft after = [] := List.dropWhile_eq_nil_iff.mpr hafter
    rw [List.nil_append, hnil]
    rfl
  | cons c s =>
    have hc : isBlank c = false := hs.head c rfl
    rw [List.cons_append, trimLeft_cons_of_not_blank hc, ← List.cons_append,
      trimRight_append_of_allBlank hafter, trimRight_eq_self hs.last]

/-- A trimmed text stays as it is. -/
theorem trim_eq_self {s : List Char} (hs : Trimmed s) : trim s = s := by
  simpa using trim_between_blanks allBlank_nil hs allBlank_nil

/-- Nothing is left of blanks. -/
theorem trim_eq_nil {s : List Char} (hs : AllBlank s) : trim s = [] := by
  simpa using trim_between_blanks hs (BlankFree.trimmed (s := []) (by decide)) allBlank_nil

/-- Nothing is left of blanks alone. -/
theorem trim_eq_nil_iff {s : List Char} : trim s = [] ↔ AllBlank s := by
  refine ⟨fun hnil => ?_, trim_eq_nil⟩
  obtain ⟨before, after, hbefore, hafter, hsplit⟩ := exists_between_blanks s
  rw [hsplit, hnil, List.append_nil]
  exact hbefore.append hafter

/-- A word is split off from what follows its blanks. -/
theorem splitWord_append {word gap rest : List Char} (hword : BlankFree word)
    (hgap : AllBlank gap) (hne : gap ≠ []) (hrest : ∀ c ∈ rest.head?, isBlank c = false) :
    splitWord (word ++ gap ++ rest) = (word, rest) := by
  have hpass : ∀ c ∈ word, (!isBlank c) = true := fun c hc => by simp [hword c hc]
  cases gap with
  | nil => exact absurd rfl hne
  | cons g gap =>
    have hg : isBlank g = true := hgap g (by simp)
    rw [splitWord, List.append_assoc, List.takeWhile_append_of_pos hpass,
      List.dropWhile_append_of_pos hpass]
    simp only [List.cons_append, hg, Bool.not_true, Bool.false_eq_true, not_false_eq_true,
      List.takeWhile_cons_of_neg, List.dropWhile_cons_of_neg, List.append_nil, Prod.mk.injEq,
      true_and]
    rw [← List.cons_append, trimLeft_append_of_allBlank hgap, trimLeft_eq_self hrest]

/-- A word alone is all of its text. -/
theorem splitWord_eq_self {word : List Char} (hword : BlankFree word) :
    splitWord word = (word, []) := by
  have hpass : ∀ c ∈ word, (!isBlank c) = true := fun c hc => by simp [hword c hc]
  rw [splitWord, List.takeWhile_eq_self_iff.mpr hpass, List.dropWhile_eq_nil_iff.mpr hpass]
  rfl

end NearMiss.Text
