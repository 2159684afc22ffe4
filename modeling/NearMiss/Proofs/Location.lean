import NearMiss.Proofs.Keyword
import NearMiss.Proofs.Positions

/-!
# How a declaration splits its line

A line falls into what stands before the declaration, the declaration, and a tail of blanks with at
most one brace. The three are told by positions and characters alone: the declaration starts at the
first exported letter before which at least as many parens are closed as opened, it does not end in
a blank, and of several braces at the end of the line the tail holds the last one only. For every
line these conditions are met by one declaration or by none, and that is what is found.
-/

namespace NearMiss.Declaration

open Text

/-- A declaration can start at a position: an exported letter stands there, and the text before it
closes at least as many parens as it opens. -/
def StartsAt (s : List Char) (i : Nat) : Prop :=
  ∃ c ∈ s[i]?, isExported c = true ∧ (s.take i).count '(' ≤ (s.take i).count ')'

/-- The last character of a text that is no blank. -/
def lastVisible? (s : List Char) : Option Char :=
  (s.filter (!isBlank ·)).getLast?

/-- What may follow the declaration on its line: blanks with one brace between them, or, where the
line does not end in a brace, blanks alone. -/
inductive Leaves (s : List Char) : List Char → Prop
  /-- No brace ends the line. -/
  | blanks {tail : List Char} (htail : AllBlank tail) (hvisible : lastVisible? s ≠ some '\x7b') :
      Leaves s tail
  /-- The brace at the end of the line. -/
  | brace {before after : List Char} (hbefore : AllBlank before) (hafter : AllBlank after) :
      Leaves s (before ++ '\x7b' :: after)

/-- A declaration splits a line into what stands before it, itself, and a tail. -/
structure Splits (s : List Char) (d : Declaration) : Prop where
  /-- It can start at its offset. -/
  starts : StartsAt s d.offset
  /-- It can start nowhere before. -/
  first : ∀ k < d.offset, ¬StartsAt s k
  /-- It is not empty. -/
  text_ne_empty : d.text ≠ ""
  /-- It begins with the character at its offset. -/
  head_eq : d.text.toList.head? = s[d.offset]?
  /-- It does not end in a blank. -/
  last_not_blank : ∀ c ∈ d.text.toList.getLast?, isBlank c = false
  /-- Only a tail follows it. -/
  leaves : ∃ tail, s = s.take d.offset ++ d.text.toList ++ tail ∧ Leaves s tail

/-! ## Where a declaration starts -/

/-- A walk that looks for a declaration stops where one can start. -/
theorem startsAt_iff_begins {s : List Char} {i : Nat} :
    StartsAt s i ↔ ∃ c ∈ s[i]?, begins (depth (s.take i)) c = true := by
  have hcount : (s.take i).count '(' ≤ (s.take i).count ')' ↔ depth (s.take i) ≤ 0 := by
    rw [depth_eq_count_sub_count]
    omega
  simp only [StartsAt, begins, Bool.and_eq_true, decide_eq_true_eq, hcount, and_comm]

/-- A text is passed over exactly if no declaration can start in it. -/
theorem passes_begins_iff {s : List Char} :
    Passes begins 0 s ↔ ∀ i, ¬StartsAt s i := by
  simp only [passes_iff_forall_getElem?, startsAt_iff_begins, Int.zero_add, Option.mem_def,
    not_exists, not_and, Bool.not_eq_true]

/-- Whether a declaration can start at a position is decided by the text up to there. -/
theorem startsAt_take_iff {s : List Char} {i k : Nat} :
    StartsAt (s.take i) k ↔ k < i ∧ StartsAt s k := by
  rw [StartsAt, StartsAt, List.take_take, List.getElem?_take]
  by_cases hk : k < i
  · simp only [hk, if_true, Nat.min_eq_left (Nat.le_of_lt hk), true_and]
  · simp [hk]

/-- A line is cut at the first position where a declaration can start. -/
theorem cut?_eq_some_iff_startsAt {s before after : List Char} :
    cut? 0 s = some (before, after) ↔
      ∃ i, StartsAt s i ∧ (∀ k < i, ¬StartsAt s k) ∧ before = s.take i ∧ after = s.drop i := by
  rw [cut?_eq_some_iff]
  constructor
  · rintro ⟨rfl, hpasses, c, hc, hbegins⟩
    refine ⟨before.length, startsAt_iff_begins.mpr ⟨c, ?_, ?_⟩, fun k hk hstarts => ?_, by simp,
      by simp⟩
    · rwa [List.getElem?_append_right (Nat.le_refl _), Nat.sub_self, ← List.head?_eq_getElem?]
    · rwa [List.take_left, ← Int.zero_add (depth before)]
    · refine passes_begins_iff.mp hpasses k ?_
      have htake := startsAt_take_iff.mpr ⟨hk, hstarts⟩
      rwa [List.take_left] at htake
  · rintro ⟨i, hstarts, hfirst, rfl, rfl⟩
    obtain ⟨c, hc, hbegins⟩ := startsAt_iff_begins.mp hstarts
    refine ⟨(List.take_append_drop i s).symm, passes_begins_iff.mpr fun k hk => ?_, c, ?_, ?_⟩
    · obtain ⟨hlt, hk⟩ := startsAt_take_iff.mp hk
      exact hfirst k hlt hk
    · rwa [List.head?_drop]
    · rwa [Int.zero_add]

/-! ## What is taken off at the end -/

/-- The first letter of a declaration is neither a blank nor the brace at its end. -/
theorem exists_dropBrace_cons {c : Char} (hc : isExported c = true) (s : List Char) :
    ∃ kept, dropBrace (c :: s) = c :: kept := by
  have hblank := isBlank_of_isExported hc
  obtain ⟨kept, hkept⟩ := exists_trimRight_cons hblank s
  simp only [dropBrace, hkept]
  split
  · next hbrace =>
    cases kept with
    | nil =>
      obtain rfl : c = '\x7b' := by simpa using hbrace
      exact absurd hc (by decide)
    | cons d kept =>
      rw [List.dropLast_cons_cons]
      exact exists_trimRight_cons hblank _
  · exact ⟨kept, rfl⟩

/-- A text that ends visibly has its last visible character before any blanks. -/
theorem lastVisible?_append {before text tail : List Char} (hne : text ≠ [])
    (hlast : ∀ c ∈ text.getLast?, isBlank c = false) (htail : AllBlank tail) :
    lastVisible? (before ++ text ++ tail) = text.getLast? := by
  obtain ⟨init, c, rfl⟩ := (List.eq_nil_or_concat' text).resolve_left hne
  have hc : isBlank c = false := hlast c (by simp)
  have hblank : tail.filter (!isBlank ·) = [] :=
    List.filter_eq_nil_iff.mpr fun d hd => by simp [htail d hd]
  rw [lastVisible?, List.filter_append, hblank, List.append_nil, ← List.append_assoc,
    List.filter_append, List.filter_cons_of_pos (by simp [hc]), List.filter_nil,
    List.getLast?_concat, List.getLast?_concat]

/-- Where no brace ends the text, only blanks are taken off. -/
theorem dropBrace_eq_trimRight {s : List Char} (hbrace : (trimRight s).getLast? ≠ some '\x7b') :
    dropBrace s = trimRight s := by
  rw [dropBrace]
  split
  · next hlast => exact absurd hlast hbrace
  · rfl

/-- A text that ends neither in a blank nor in a brace is found again before blanks. -/
theorem dropBrace_append_blanks {text tail : List Char}
    (hlast : ∀ c ∈ text.getLast?, isBlank c = false) (hbrace : text.getLast? ≠ some '\x7b')
    (htail : AllBlank tail) : dropBrace (text ++ tail) = text := by
  have htrim : trimRight (text ++ tail) = text := by
    rw [trimRight_append_of_allBlank htail, trimRight_eq_self hlast]
  rw [dropBrace_eq_trimRight (by rwa [htrim]), htrim]

/-- What is kept before the brace does not end in a blank. -/
theorem dropBrace_last_not_blank (s : List Char) :
    ∀ c ∈ (dropBrace s).getLast?, isBlank c = false := by
  rw [dropBrace]
  split
  · exact isBlank_getLast?_trimRight _
  · exact isBlank_getLast?_trimRight _

/-- What is taken off at the end of a line is a tail of that line. -/
theorem exists_leaves {c : Char} (hc : isExported c = true) (before rest : List Char) :
    ∃ tail, c :: rest = dropBrace (c :: rest) ++ tail ∧ Leaves (before ++ c :: rest) tail := by
  obtain ⟨blank, hblank, htrim⟩ := exists_trimRight_append (c :: rest)
  by_cases hbrace : (trimRight (c :: rest)).getLast? = some '\x7b'
  · -- The brace goes with the blanks on both sides of it; a brace before these stays.
    obtain ⟨kept, hkept⟩ := List.getLast?_eq_some_iff.mp hbrace
    obtain ⟨gap, hgap, hsplit⟩ := exists_trimRight_append kept
    have hdrop : dropBrace (c :: rest) = trimRight kept := by
      simp only [dropBrace, hkept, List.getLast?_concat, List.dropLast_concat]
    refine ⟨gap ++ '\x7b' :: blank, ?_, .brace hgap hblank⟩
    calc
      c :: rest = kept ++ ['\x7b'] ++ blank := by rw [← hkept, ← htrim]
      _ = kept ++ '\x7b' :: blank := by rw [List.append_assoc, List.singleton_append]
      _ = dropBrace (c :: rest) ++ (gap ++ '\x7b' :: blank) := by
        rw [hdrop, ← List.append_assoc, ← hsplit]
  · refine ⟨blank, by rw [dropBrace_eq_trimRight hbrace, ← htrim], .blanks hblank ?_⟩
    obtain ⟨kept, hkept⟩ := exists_trimRight_cons (isBlank_of_isExported hc) rest
    have hne : trimRight (c :: rest) ≠ [] := by simp [hkept]
    rw [htrim, ← List.append_assoc,
      lastVisible?_append hne (isBlank_getLast?_trimRight _) hblank]
    exact hbrace

/-! ## The split of a line -/

/-- No declaration is located if none starts anywhere. -/
theorem locate?_eq_none_iff {line : String} :
    locate? line = none ↔ ∀ i, ¬StartsAt line.toList i := by
  rw [locate?, Option.map_eq_none_iff, cut?_eq_none_iff, passes_begins_iff]

/-- A declaration runs from the first position where it can start to the brace. -/
theorem locate?_eq_some_iff_startsAt {line : String} {d : Declaration} :
    locate? line = some d ↔
      StartsAt line.toList d.offset ∧ (∀ k < d.offset, ¬StartsAt line.toList k) ∧
        d.text.toList = dropBrace (line.toList.drop d.offset) := by
  have hlength {i : Nat} (hstarts : StartsAt line.toList i) : (line.toList.take i).length = i := by
    obtain ⟨c, hc, -⟩ := hstarts
    obtain ⟨hi, -⟩ := List.getElem?_eq_some_iff.mp hc
    exact List.length_take_of_le (Nat.le_of_lt hi)
  rw [locate?_eq_some_iff]
  constructor
  · rintro ⟨before, after, hcut, rfl⟩
    obtain ⟨i, hstarts, hfirst, rfl, rfl⟩ := cut?_eq_some_iff_startsAt.mp hcut
    rw [hlength hstarts]
    exact ⟨hstarts, hfirst, String.toList_ofList⟩
  · rintro ⟨hstarts, hfirst, htext⟩
    refine ⟨_, _, cut?_eq_some_iff_startsAt.mpr ⟨_, hstarts, hfirst, rfl, rfl⟩, ?_⟩
    rw [hlength hstarts, ← htext, String.ofList_toList]

/-- The text of a split is what stands from its offset to the brace. -/
theorem Splits.dropBrace_eq {s : List Char} {d : Declaration} (h : Splits s d) :
    dropBrace (s.drop d.offset) = d.text.toList := by
  have hne : d.text.toList ≠ [] := by simpa using h.text_ne_empty
  obtain ⟨tail, hs, hleaves⟩ := h.leaves
  have hdrop : s.drop d.offset = d.text.toList ++ tail := by
    have htake := List.take_append_drop d.offset s
    rw [List.append_assoc] at hs
    exact List.append_cancel_left (htake.trans hs)
  rw [hdrop]
  cases hleaves with
  | blanks htail hvisible =>
    refine dropBrace_append_blanks h.last_not_blank ?_ htail
    rwa [hs, lastVisible?_append hne h.last_not_blank htail] at hvisible
  | brace hbefore hafter =>
    rw [← List.append_assoc]
    exact dropBrace_append_brace h.last_not_blank hbefore hafter

/-- What stands from the first possible start to the brace splits the line. -/
theorem splits_of_startsAt {s : List Char} {d : Declaration} (hstarts : StartsAt s d.offset)
    (hfirst : ∀ k < d.offset, ¬StartsAt s k)
    (htext : d.text.toList = dropBrace (s.drop d.offset)) : Splits s d := by
  obtain ⟨c, hc, hexported, hclosed⟩ := hstarts
  obtain ⟨rest, hrest⟩ := List.head?_eq_some_iff.mp (List.head?_drop.trans hc)
  obtain ⟨kept, hkept⟩ := exists_dropBrace_cons hexported rest
  obtain ⟨tail, htail, hleaves⟩ := exists_leaves hexported (s.take d.offset) rest
  rw [hrest] at htext
  rw [← htext] at htail
  rw [← hrest, List.take_append_drop] at hleaves
  refine ⟨⟨c, hc, hexported, hclosed⟩, hfirst, ?_, ?_, ?_, tail, ?_, hleaves⟩
  · intro hempty
    rw [hempty, hkept] at htext
    simp at htext
  · rw [htext, hkept, List.head?_cons, Option.mem_def.mp hc]
  · rw [htext]
    exact dropBrace_last_not_blank _
  · rw [List.append_assoc, ← htail, ← hrest, List.take_append_drop]

/-- Every line is split exactly. No declaration is found if and only if none can start anywhere; and
the declaration that is found is the one that splits the line at the first position where one can
start, with a tail of blanks and at most the last brace. -/
theorem locate?_splits (line : String) :
    (locate? line = none ↔ ∀ i, ¬StartsAt line.toList i) ∧
      ∀ d, locate? line = some d ↔ Splits line.toList d := by
  refine ⟨locate?_eq_none_iff, fun d => ?_⟩
  rw [locate?_eq_some_iff_startsAt]
  constructor
  · rintro ⟨hstarts, hfirst, htext⟩
    exact splits_of_startsAt hstarts hfirst htext
  · exact fun h => ⟨h.starts, h.first, h.dropBrace_eq.symm⟩

/-- Of the braces at the end of a line the last one is taken off, with the line feed before it. -/
example : locate? ")(func) Foo(T \x7b \x7b\n \x7b\t" =
    some ⟨8, "Foo(T \x7b \x7b"⟩ := by
  decide

end NearMiss.Declaration
