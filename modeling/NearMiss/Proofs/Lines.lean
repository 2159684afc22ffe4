import NearMiss.Text.Lines
import NearMiss.Text.Split
import Mathlib.Data.List.Infix

/-!
# Lines and line feeds

A text has two divisions into lines. `lines` cuts it after every line end, `split` at its line feeds
only. This file says where a line of the first kind stands in the text, how many line ends stand
before it, and which line of the second kind it begins. It also says what becomes of the lines of
the first kind when texts are joined at a line feed or read from a file.
-/

namespace NearMiss.Text

/-- The line ends that are neither line feed nor carriage return. -/
def isOtherEnd (c : Char) : Bool :=
  endsLine c && c != '\n' && c != '\r'

/-- A text in which every carriage return stands before a line feed. -/
def NoLoneReturn (s : List Char) : Prop :=
  ∀ after, '\r' :: after <:+ s → after.head? = some '\n'

instance (s : List Char) : Decidable (NoLoneReturn s) :=
  decidable_of_iff (∀ t ∈ s.tails, t.head? = some '\r' → t.tail.head? = some '\n')
    ⟨fun h after hafter => h _ ((List.mem_tails _ _).mpr hafter) rfl, fun h t ht hhead => by
      obtain ⟨after, rfl⟩ := List.head?_eq_some_iff.mp hhead
      exact h after ((List.mem_tails _ _).mp ht)⟩

/-- The rest of a text has no lone carriage returns either. -/
theorem NoLoneReturn.of_cons {c : Char} {s : List Char} (h : NoLoneReturn (c :: s)) :
    NoLoneReturn s :=
  fun after hafter => h after (hafter.trans (List.suffix_cons c s))

/-- A stretch of a text that is a line of it: it begins where the text begins or behind a line end,
holds no line end, and ends where the text ends or before a line end. -/
structure IsLine (before line after : List Char) : Prop where
  /-- It begins behind a line end. -/
  starts : ∀ c ∈ before.getLast?, c = '\n' ∨ isOtherEnd c = true
  /-- It holds no line end. -/
  inside : ∀ c ∈ line, endsLine c = false
  /-- It ends before a line end. -/
  ends : ∀ c ∈ after.head?, endsLine c = true

/-- How many lines end in a text without lone carriage returns. -/
def lineEnds (s : List Char) : Nat :=
  s.count '\n' + s.countP isOtherEnd

/-- A character that ends a line, other than a carriage return, counts. -/
theorem lineEnds_cons (c : Char) (s : List Char) :
    lineEnds (c :: s) = lineEnds s + if c = '\n' ∨ isOtherEnd c = true then 1 else 0 := by
  by_cases hfeed : c = '\n'
  · have hother : isOtherEnd '\n' = false := by decide
    subst hfeed
    simp only [lineEnds, List.count_cons_self, List.countP_cons, hother, true_or, if_true,
      Bool.false_eq_true, if_false]
    omega
  · simp only [lineEnds, List.count_cons_of_ne hfeed, List.countP_cons, hfeed, false_or]
    omega

/-- A line feed or another line end is a line end that is no carriage return. -/
theorem eq_or_isOtherEnd_iff {c : Char} :
    c = '\n' ∨ isOtherEnd c = true ↔ endsLine c = true ∧ c ≠ '\r' := by
  by_cases hfeed : c = '\n'
  · subst hfeed
    decide
  · simp [isOtherEnd, hfeed]

/-- Only the empty text has no lines. -/
theorem lines_eq_nil_iff {s : List Char} : lines s = [] ↔ s = [] := by
  fun_cases lines s <;> simp

/-- A line with line ends before it does not begin the text. -/
theorem IsLine.before_eq_nil {before line after : List Char} (h : IsLine before line after)
    (hfirst : lineEnds before = 0) : before = [] := by
  rcases List.eq_nil_or_concat' before with rfl | ⟨front, c, rfl⟩
  · rfl
  · have hend := h.starts c (by simp)
    have hpos : 0 < lineEnds (front ++ [c]) := by
      rw [lineEnds, Nat.add_pos_iff_pos_or_pos, List.count_pos_iff, List.countP_pos_iff]
      exact hend.imp (fun hfeed => by simp [hfeed]) fun hother => ⟨c, by simp, hother⟩
    omega

/-- A character before a line leaves it a line, if a line end stands between or the character is
one. -/
theorem IsLine.cons {before line after : List Char} (h : IsLine before line after) {c : Char}
    (hc : before = [] → c = '\n' ∨ isOtherEnd c = true) : IsLine (c :: before) line after where
  starts := by
    cases before with
    | nil =>
      intro d hd
      obtain rfl : c = d := Option.some.inj hd
      exact hc rfl
    | cons b before => exact h.starts
  inside := h.inside
  ends := h.ends

/-- Every line of a text without lone carriage returns stands between line ends, and its number is
the number of line ends before it. -/
theorem exists_isLine_of_getElem?_lines {s : List Char} (hreturn : NoLoneReturn s) {i : Nat}
    {line : List Char} (hline : (lines s)[i]? = some line) :
    ∃ before after, s = before ++ (line ++ after) ∧ IsLine before line after ∧
      i = lineEnds before := by
  fun_induction lines s generalizing i line with
  | case1 => simp at hline
  | case2 rest ih =>
    cases i with
    | zero =>
      obtain rfl : [] = line := by simpa using hline
      exact ⟨[], _, rfl, ⟨by simp, by simp, by simp; decide⟩, rfl⟩
    | succ i =>
      obtain ⟨before, after, rfl, hisLine, rfl⟩ :=
        ih hreturn.of_cons.of_cons (by simpa using hline)
      refine ⟨'\r' :: '\n' :: before, after, rfl, ?_, ?_⟩
      · exact (hisLine.cons fun _ => Or.inl rfl).cons (by simp)
      · rw [lineEnds_cons, lineEnds_cons, if_pos (Or.inl rfl), if_neg (by decide)]
  | case3 c rest hcrlf hend ih =>
    have hfeed : c = '\n' ∨ isOtherEnd c = true := by
      refine eq_or_isOtherEnd_iff.mpr ⟨hend, ?_⟩
      rintro rfl
      obtain ⟨after, rfl⟩ := List.head?_eq_some_iff.mp (hreturn rest (List.suffix_refl _))
      exact hcrlf after rfl rfl
    cases i with
    | zero =>
      obtain rfl : [] = line := by simpa using hline
      exact ⟨[], _, rfl, ⟨by simp, by simp, by simpa using hend⟩, rfl⟩
    | succ i =>
      obtain ⟨before, after, rfl, hisLine, rfl⟩ := ih hreturn.of_cons (by simpa using hline)
      refine ⟨c :: before, after, rfl, hisLine.cons fun _ => hfeed, ?_⟩
      rw [lineEnds_cons, if_pos hfeed]
  | case4 c rest hcrlf hend hnone ih =>
    obtain rfl := lines_eq_nil_iff.mp hnone
    obtain ⟨rfl, rfl⟩ : i = 0 ∧ [c] = line := by simpa [List.getElem?_singleton] using hline
    exact ⟨[], [], rfl, ⟨by simp, by simpa using hend, by simp⟩, rfl⟩
  | case5 c rest hcrlf hend first later hlines ih =>
    rw [Bool.not_eq_true] at hend
    have hnot : ¬(c = '\n' ∨ isOtherEnd c = true) := by simp [eq_or_isOtherEnd_iff, hend]
    cases i with
    | zero =>
      -- The character joins the first line of the rest, before which nothing can stand.
      obtain rfl : c :: first = line := by simpa using hline
      obtain ⟨before, after, hrest, hisLine, hfirst⟩ :=
        ih hreturn.of_cons (show (lines rest)[0]? = some first by rw [hlines]; rfl)
      obtain rfl := hisLine.before_eq_nil hfirst.symm
      refine ⟨[], after, by rw [hrest]; rfl, ⟨by simp, ?_, hisLine.ends⟩, rfl⟩
      exact List.forall_mem_cons.mpr ⟨hend, hisLine.inside⟩
    | succ i =>
      obtain ⟨before, after, hrest, hisLine, hcount⟩ :=
        ih hreturn.of_cons (show (lines rest)[i + 1]? = some line by rw [hlines]; exact hline)
      refine ⟨c :: before, after, by rw [hrest]; rfl, hisLine.cons ?_, ?_⟩
      · rintro rfl
        exact absurd hcount (Nat.add_one_ne_zero i)
      · rw [lineEnds_cons, if_neg hnot, hcount, Nat.add_zero]

/-! ## Lines of a joined text -/

/-- A line end closes a line, unless it is a carriage return that a line feed follows. -/
theorem lines_cons_of_end {c : Char} {rest : List Char} (hc : endsLine c = true)
    (hrest : ∀ after, c = '\r' → rest = '\n' :: after → False) :
    lines (c :: rest) = [] :: lines rest := by
  rw [lines, if_pos hc]
  exact hrest

/-- A line feed closes a line. -/
theorem lines_feed_cons (rest : List Char) : lines ('\n' :: rest) = [] :: lines rest :=
  lines_cons_of_end (by decide) (by simp)

/-- Any other character begins the first line of what follows. -/
theorem lines_cons_of_not_end {c : Char} (hc : endsLine c = false) (rest : List Char) :
    lines (c :: rest) = (c :: (lines rest).headD []) :: (lines rest).tail := by
  rw [lines, if_neg (Bool.not_eq_true _ ▸ hc)]
  · split
    · next hnone => rw [hnone]; rfl
    · next line later hlines => rw [hlines]; rfl
  · rintro after rfl
    exact absurd hc (by decide)

/-- A text without line ends is one line. -/
theorem lines_of_not_end {s : List Char} (hs : ∀ c ∈ s, endsLine c = false) (hne : s ≠ []) :
    lines s = [s] := by
  induction s with
  | nil => exact absurd rfl hne
  | cons c rest ih =>
    obtain ⟨hc, hrest⟩ := List.forall_mem_cons.mp hs
    rw [lines_cons_of_not_end hc]
    cases rest with
    | nil => rfl
    | cons d rest =>
      rw [ih hrest (List.cons_ne_nil d rest)]
      rfl

/-- What stands behind a text joins none of its line ends but a carriage return at its end. -/
theorem not_crlf_append {c : Char} {rest : List Char}
    (hcrlf : ∀ after, c = '\r' → rest = '\n' :: after → False) (hlast : ¬(c = '\r' ∧ rest = []))
    (t : List Char) : ∀ after, c = '\r' → rest ++ t = '\n' :: after → False := by
  intro after hc hafter
  cases rest with
  | nil => exact hlast ⟨hc, rfl⟩
  | cons d rest =>
    obtain ⟨rfl, -⟩ := List.cons.inj hafter
    exact hcrlf rest hc rfl

/-- A line feed parts the lines of a text, also if a carriage return stands before it. -/
theorem lines_append_feed (s t : List Char) :
    lines (s ++ '\n' :: t) = lines (s ++ ['\n']) ++ lines t := by
  induction s using normalizeNewlines.induct with
  | case1 => exact lines_feed_cons t
  | case2 rest ih => simp only [List.cons_append, lines, ih]
  | case3 c rest hcrlf ih =>
    rw [List.cons_append, List.cons_append]
    cases hend : endsLine c with
    | true =>
      by_cases hlast : c = '\r' ∧ rest = []
      · obtain ⟨rfl, rfl⟩ := hlast
        rfl
      · have hapart := not_crlf_append hcrlf hlast
        rw [lines_cons_of_end hend (hapart _), lines_cons_of_end hend (hapart _), ih,
          List.cons_append]
    | false =>
      obtain ⟨first, later, hlines⟩ : ∃ first later, lines (rest ++ ['\n']) = first :: later :=
        List.exists_cons_of_ne_nil (mt lines_eq_nil_iff.mp (by simp))
      rw [lines_cons_of_not_end hend, lines_cons_of_not_end hend, ih, hlines]
      rfl

/-- A line feed at the end of a text adds an empty line or none. -/
theorem lines_append_feed_eq_or (s : List Char) :
    lines (s ++ ['\n']) = lines s ∨ lines (s ++ ['\n']) = lines s ++ [[]] := by
  induction s using normalizeNewlines.induct with
  | case1 => exact Or.inr rfl
  | case2 rest ih =>
    simp only [List.cons_append, lines]
    exact ih.imp (congrArg ([] :: ·)) (congrArg ([] :: ·))
  | case3 c rest hcrlf ih =>
    rw [List.cons_append]
    cases hend : endsLine c with
    | true =>
      by_cases hlast : c = '\r' ∧ rest = []
      · obtain ⟨rfl, rfl⟩ := hlast
        exact Or.inl rfl
      · rw [lines_cons_of_end hend (not_crlf_append hcrlf hlast _), lines_cons_of_end hend hcrlf]
        exact ih.imp (congrArg ([] :: ·)) (congrArg ([] :: ·))
    | false =>
      rw [lines_cons_of_not_end hend, lines_cons_of_not_end hend]
      cases hlines : lines rest with
      | nil =>
        obtain rfl := lines_eq_nil_iff.mp hlines
        exact Or.inl rfl
      | cons first later =>
        rw [hlines] at ih
        refine ih.imp (fun h => ?_) fun h => ?_
        · rw [h]
        · rw [h]
          rfl

/-! ## Lines between line feeds -/

/-- A text has at least one part. -/
theorem split_ne_nil (mark : Char) (s : List Char) : split mark s ≠ [] := by
  fun_cases split mark s <;> simp

/-- A mark ends a part. -/
theorem split_cons_self (mark : Char) (s : List Char) :
    split mark (mark :: s) = [] :: split mark s := by
  simp [split]

/-- Any other character begins the first part of what follows. -/
theorem split_cons_of_ne {mark c : Char} (hc : c ≠ mark) (s : List Char) :
    split mark (c :: s) = (split mark s).modifyHead (c :: ·) := by
  rw [split, if_neg hc]
  cases hparts : split mark s with
  | nil => exact absurd hparts (split_ne_nil mark s)
  | cons part later => rfl

/-- A text without the mark stands in front of the first part. -/
theorem split_append_of_not_mem {mark : Char} {s : List Char} (hs : mark ∉ s) (t : List Char) :
    split mark (s ++ t) = (split mark t).modifyHead (s ++ ·) := by
  induction s with
  | nil => exact (congrFun List.modifyHead_id (split mark t)).symm
  | cons c s ih =>
    rw [List.mem_cons, not_or] at hs
    rw [List.cons_append, split_cons_of_ne (Ne.symm hs.1), ih hs.2, List.modifyHead_modifyHead]
    rfl

/-- A text without the mark is its only part. -/
theorem split_of_not_mem {mark : Char} {s : List Char} (hs : mark ∉ s) : split mark s = [s] := by
  have h := split_append_of_not_mem hs []
  rwa [List.append_nil, split, List.modifyHead_cons, List.append_nil] at h

/-- The mark parts a text. -/
theorem split_append_mark (mark : Char) (s t : List Char) :
    split mark (s ++ mark :: t) = split mark s ++ split mark t := by
  induction s with
  | nil => exact split_cons_self mark t
  | cons c s ih =>
    by_cases hc : c = mark
    · rw [List.cons_append, hc, split_cons_self, ih, split_cons_self, List.cons_append]
    · rw [List.cons_append, split_cons_of_ne hc, ih, split_cons_of_ne hc]
      cases hparts : split mark s with
      | nil => exact absurd hparts (split_ne_nil mark s)
      | cons part later => rfl

/-- There is one part more than there are marks. -/
theorem length_split (mark : Char) (s : List Char) :
    (split mark s).length = s.count mark + 1 := by
  induction s with
  | nil => rfl
  | cons c s ih =>
    by_cases hc : c = mark
    · rw [hc, split_cons_self, List.length_cons, ih, List.count_cons_self]
    · rw [split_cons_of_ne hc, List.length_modifyHead, ih, List.count_cons_of_ne hc]

/-- What follows a line feed begins the part with the number of line feeds before it. -/
theorem exists_getElem?_split {mark : Char} {before line : List Char}
    (hbefore : ∀ c ∈ before.getLast?, c = mark) (hline : mark ∉ line) (after : List Char) :
    ∃ more, (split mark (before ++ (line ++ after)))[before.count mark]? = some (line ++ more) := by
  obtain ⟨part, later, hparts⟩ := List.exists_cons_of_ne_nil (split_ne_nil mark after)
  have hbegin : split mark (line ++ after) = (line ++ part) :: later := by
    rw [split_append_of_not_mem hline, hparts]
    rfl
  refine ⟨part, ?_⟩
  rcases List.eq_nil_or_concat' before with rfl | ⟨front, c, rfl⟩
  · rw [List.nil_append, hbegin]
    rfl
  · obtain rfl := hbefore c (by simp)
    rw [List.append_assoc, List.singleton_append, split_append_mark, hbegin, List.count_append,
      List.count_singleton_self, ← length_split, List.getElem?_append_right (Nat.le_refl _),
      Nat.sub_self]
    rfl

/-! ## Carriage returns -/

/-- A text without carriage returns is read from a file as it stands. -/
theorem normalizeNewlines_eq_self {s : List Char} (hs : '\r' ∉ s) : normalizeNewlines s = s := by
  fun_induction normalizeNewlines s with
  | case1 => rfl
  | case2 rest ih => exact absurd List.mem_cons_self hs
  | case3 c rest _ ih =>
    have hc : c ≠ '\r' := (List.ne_of_not_mem_cons hs).symm
    rw [if_neg hc, ih (List.not_mem_of_not_mem_cons hs)]

/-- A text has the same lines after it has been read from a file. -/
theorem lines_normalizeNewlines (s : List Char) : lines (normalizeNewlines s) = lines s := by
  fun_induction normalizeNewlines s with
  | case1 => rfl
  | case2 rest ih => rw [lines_feed_cons, ih, lines]
  | case3 c rest hcrlf ih =>
    by_cases hreturn : c = '\r'
    · subst hreturn
      rw [if_pos rfl, lines_feed_cons, ih, lines_cons_of_end (by decide) hcrlf]
    · rw [if_neg hreturn]
      cases hend : endsLine c with
      | true =>
        rw [lines_cons_of_end hend hcrlf, lines_cons_of_end hend fun _ h => absurd h hreturn, ih]
      | false => rw [lines_cons_of_not_end hend, lines_cons_of_not_end hend, ih]

end NearMiss.Text
