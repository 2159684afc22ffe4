import NearMiss.Json.Parser
import Mathlib.Data.List.TakeWhile

/-!
# Numbers with too many digits

The reader goes through a text from front to end, and what it leaves is always an end of what it was
given. If it gives up on a number for the number of its digits, then all these digits stand in the
text, one behind the other.
-/

namespace NearMiss.Json

/-- The text holds that many digits in a row, and no whole number may have so many. -/
def Oversized (count : Nat) (s : List Char) : Prop :=
  maxDigits < count ∧
    ∃ digits, digits <:+: s ∧ digits.length = count ∧ ∀ c ∈ digits, c.isDigit = true

/-- A number that is too long is too long in a longer text. -/
theorem Oversized.mono {count : Nat} {s t : List Char} (h : Oversized count s) (hst : s <:+ t) :
    Oversized count t := by
  obtain ⟨hcount, digits, hinfix, hdigits⟩ := h
  exact ⟨hcount, digits, hinfix.trans hst.isInfix, hdigits⟩

/-- What comes of reading at the front of a text: what is left is an end of it, and a number that is
refused for its digits stands in it. -/
def Stays {α : Type} (s : List Char) : Except Halt (α × List Char) → Prop
  | .ok found => found.2 <:+ s
  | .error (.malformed _ _) => True
  | .error (.tooManyDigits count) => Oversized count s

variable {α β : Type} {s t : List Char}

/-- What stays within the end of a text stays within the text. -/
theorem Stays.mono {result : Except Halt (α × List Char)} (h : Stays s result) (hst : s <:+ t) :
    Stays t result := by
  rcases result with ⟨_ | _⟩ | found
  · trivial
  · exact Oversized.mono h hst
  · exact List.IsSuffix.trans h hst

/-- Reading goes on where it stopped. -/
theorem Stays.bind {result : Except Halt (α × List Char)}
    {next : α × List Char → Except Halt (β × List Char)} (h : Stays s result)
    (hnext : ∀ found rest, Stays rest (next (found, rest))) : Stays s (result >>= next) := by
  rcases result with ⟨_ | _⟩ | ⟨found, rest⟩
  · trivial
  · exact h
  · exact (hnext found rest).mono h

/-- What is made of a result stays where the result does. -/
theorem Stays.map {result : Except Halt (α × List Char)} (h : Stays s result) (f : α → β) :
    Stays s (result >>= fun (found, rest) => pure (f found, rest)) :=
  h.bind fun _ rest => List.suffix_refl rest

/-- What stands behind blanks ends the text. -/
theorem skipSpace_suffix (s : List Char) : skipSpace s <:+ s :=
  List.dropWhile_suffix _

/-! ## Strings and numbers -/

/-- Reading the characters of a string stays within the text. -/
theorem stringCodes_stays (opening : Nat) (s : List Char) : Stays s (stringCodes opening s) := by
  -- A string ends at its quote or goes on behind a character or an escape.
  have hgoesOn : ∀ (front : List Char) {rest : List Char} {n : Nat},
      Stays rest (stringCodes opening rest) →
        Stays (front ++ rest) (stringCodes opening rest >>= fun found =>
          pure (n :: found.1, found.2)) := by
    intro front rest n ih
    exact (ih.map (n :: ·)).mono (List.suffix_append front rest)
  fun_induction stringCodes opening s with
  | case1 => trivial
  | case2 rest => exact List.suffix_cons _ rest
  | case3 => trivial
  | case4 => trivial
  | case5 a b c d e rest n _ ih => exact hgoesOn ['\\', 'u', a, b, c, d] ih
  | case6 => trivial
  | case7 => trivial
  | case8 c rest _ _ escaped _ ih => exact hgoesOn ['\\', c] ih
  | case9 => trivial
  | case10 c rest _ _ _ _ _ _ ih => exact hgoesOn [c] ih

/-- Reading a string stays within the text. -/
theorem stringBody_stays (s : List Char) : Stays s (stringBody s) :=
  (stringCodes_stays _ s).map fun codes => String.ofList (joinHalves codes)

/-- A whole part is made of digits and followed by the rest. -/
theorem wholePart?_eq_some {whole rest : List Char} (h : wholePart? s = some (whole, rest)) :
    s = whole ++ rest ∧ ∀ c ∈ whole, c.isDigit = true := by
  unfold wholePart? at h
  split at h
  · cases h
    exact ⟨rfl, by simp⟩
  · split at h
    · cases h
      refine ⟨(List.takeWhile_append_dropWhile ..).symm, fun c hc => ?_⟩
      exact List.mem_takeWhile_imp hc
    · cases h
  · cases h

/-- What stands behind a fraction ends the text. -/
theorem fraction_suffix (s : List Char) : (fraction s).2 <:+ s := by
  unfold fraction
  split
  · next rest =>
    dsimp only
    split
    · exact List.suffix_refl _
    · exact (List.dropWhile_suffix _).trans (List.suffix_cons _ _)
  · exact List.suffix_refl _

/-- What stands behind the digits of an exponent ends the text. -/
theorem exponentDigits?_suffix {e : Int} {rest : List Char}
    (h : exponentDigits? s = some (e, rest)) : rest <:+ s := by
  unfold exponentDigits? at h
  split at h
  next negative body hsign =>
  have hbody : body <:+ s := by
    split at hsign
    · cases hsign
      exact List.suffix_cons _ _
    · cases hsign
      exact List.suffix_cons _ _
    · cases hsign
      exact List.suffix_refl _
  dsimp only at h
  split at h
  · cases h
  · cases h
    exact (List.dropWhile_suffix _).trans hbody

/-- What stands behind an exponent ends the text. -/
theorem exponent?_suffix {e : Int} {rest : List Char} (h : exponent? s = some (e, rest)) :
    rest <:+ s := by
  unfold exponent? at h
  split at h
  · exact (exponentDigits?_suffix h).trans (List.suffix_cons _ _)
  · exact (exponentDigits?_suffix h).trans (List.suffix_cons _ _)
  · cases h

/-- Reading a number stays within the text. -/
theorem unsigned_stays (left : Nat) (negative : Bool) (s : List Char) :
    Stays s (unsigned left negative s) := by
  unfold unsigned
  split
  · trivial
  · next whole afterWhole hwhole =>
    obtain ⟨hs, hdigits⟩ := wholePart?_eq_some hwhole
    have hafter : afterWhole <:+ s := ⟨whole, hs.symm⟩
    have hplaces : (fraction afterWhole).2 <:+ s := (fraction_suffix afterWhole).trans hafter
    dsimp only
    split
    · next e rest hexponent => exact (exponent?_suffix hexponent).trans hplaces
    · split
      · exact hplaces
      · split
        · next hlong => exact ⟨hlong, whole, ⟨[], afterWhole, hs.symm⟩, rfl, hdigits⟩
        · exact hplaces

/-! ## Values -/

/-- Whatever the reader is about to read, it stays inside the text. -/
theorem reading_stays (fuel : Nat) :
    (∀ s, Stays s (value fuel s)) ∧ (∀ s, Stays s (items fuel s)) ∧
      ∀ before s, Stays s (members fuel before s) := by
  induction fuel with
  | zero => exact ⟨fun _ => trivial, fun _ => trivial, fun _ _ => trivial⟩
  | succ fuel ih =>
    obtain ⟨hvalue, hitems, hmembers⟩ := ih
    have hskip : ∀ {c : Char} {rest behind : List Char}, skipSpace rest = c :: behind →
        behind <:+ rest := by
      intro c rest behind hspace
      exact (List.suffix_cons c behind).trans (hspace ▸ skipSpace_suffix rest)
    refine ⟨fun s => ?_, fun s => ?_, fun before s => ?_⟩
    · unfold value
      split
      · next rest =>
        refine Stays.mono ?_ (List.suffix_cons _ rest)
        exact (stringBody_stays rest).map Json.str
      · next rest =>
        refine Stays.mono ?_ (List.suffix_cons _ rest)
        split
        · next behind hspace => exact hskip hspace
        · refine Stays.mono ?_ (skipSpace_suffix rest)
          exact (hitems _).map Json.arr
      · next rest =>
        refine Stays.mono ?_ (List.suffix_cons _ rest)
        split
        · next behind hspace => exact hskip hspace
        · refine Stays.mono ?_ (skipSpace_suffix rest)
          exact (hmembers _ _).map Json.obj
      · next rest => exact List.suffix_append ['n', 'u', 'l', 'l'] rest
      · next rest => exact List.suffix_append ['t', 'r', 'u', 'e'] rest
      · next rest => exact List.suffix_append ['f', 'a', 'l', 's', 'e'] rest
      · next rest => exact List.suffix_append ['N', 'a', 'N'] rest
      · next rest => exact List.suffix_append ['I', 'n', 'f', 'i', 'n', 'i', 't', 'y'] rest
      · next rest => exact List.suffix_append ['-', 'I', 'n', 'f', 'i', 'n', 'i', 't', 'y'] rest
      · next rest _ => exact (unsigned_stays _ true rest).mono (List.suffix_cons _ rest)
      · exact unsigned_stays _ false s
    · unfold items
      refine (hvalue s).bind fun first rest => ?_
      dsimp only
      split
      · next behind hspace => exact hskip hspace
      · next behind hspace =>
        have hbehind : skipSpace behind <:+ rest := (skipSpace_suffix behind).trans (hskip hspace)
        exact ((hitems _).map (first :: ·)).mono hbehind
      · trivial
    · unfold members
      split
      · next rest =>
        refine Stays.mono ?_ (List.suffix_cons _ rest)
        refine (stringBody_stays rest).bind fun name rest => ?_
        dsimp only
        split
        · next behind hspace =>
          have hbehind : skipSpace behind <:+ rest := (skipSpace_suffix behind).trans (hskip hspace)
          refine Stays.mono ?_ hbehind
          refine (hvalue _).bind fun found rest => ?_
          dsimp only
          split
          · next behind hspace => exact hskip hspace
          · next behind hspace =>
            exact (hmembers _ _).mono ((skipSpace_suffix behind).trans (hskip hspace))
          · trivial
        · trivial
      · trivial

/-- If a text is refused for the digits of a number, they stand in it. -/
theorem oversized_of_parse {text : String} {count : Nat}
    (h : parse text = .error (.tooManyDigits count)) : Oversized count text.toList := by
  have hvalue : Stays text.toList
      (value (2 * text.toList.length + 2) (skipSpace text.toList)) :=
    ((reading_stays _).1 _).mono (skipSpace_suffix _)
  have hhalt : parseText text.toList = .error (.tooManyDigits count) := by
    unfold parse at h
    split at h
    · cases h
    · cases h
    · cases h
      assumption
  unfold parseText at hhalt
  split at hhalt
  · cases hhalt
  · cases hfound : value (2 * text.toList.length + 2) (skipSpace text.toList) with
    | error halt =>
      rw [hfound] at hhalt hvalue
      cases hhalt
      exact hvalue
    | ok found =>
      rw [hfound] at hhalt
      dsimp only [bind, Except.bind] at hhalt
      split at hhalt <;> cases hhalt

/-! ## A number alone -/

/-- A digit is no blank. -/
theorem isSpace_of_isDigit {c : Char} (hc : c.isDigit = true) : isSpace c = false := by
  cases hspace : isSpace c with
  | false => rfl
  | true =>
    have hlist : c = ' ' ∨ c = '\t' ∨ c = '\n' ∨ c = '\r' := by
      simpa [isSpace, or_assoc] using hspace
    rcases hlist with rfl | rfl | rfl | rfl
    all_goals exact absurd hc (by decide)

/-- A digit begins a number. -/
theorem value_of_isDigit {c : Char} (hc : c.isDigit = true) (fuel : Nat) (rest : List Char) :
    value (fuel + 1) (c :: rest) = unsigned (rest.length + 1) false (c :: rest) := by
  unfold value
  split
  case h_11 => rfl
  all_goals
    cases ‹c :: rest = _›
    exact absurd hc (by decide)

/-- A whole number alone is refused for its digits, if there are too many. -/
theorem parse_digits {c : Char} {digits : List Char} (hc : c ≠ '0')
    (hdigits : ∀ d ∈ c :: digits, d.isDigit = true) (hlong : maxDigits < (c :: digits).length) :
    parse (String.ofList (c :: digits)) = .error (.tooManyDigits (c :: digits).length) := by
  have hfirst : c.isDigit = true := hdigits c List.mem_cons_self
  have hskip : skipSpace (c :: digits) = c :: digits := by
    rw [skipSpace, List.dropWhile_cons_of_neg]
    rw [isSpace_of_isDigit hfirst]
    exact Bool.false_ne_true
  have hmark : c ≠ '\ufeff' := by
    rintro rfl
    exact absurd hfirst (by decide)
  have hwhole : wholePart? (c :: digits) = some (c :: digits, []) := by
    unfold wholePart?
    split
    · next heq =>
      cases heq
      exact absurd rfl hc
    · next heq =>
      cases heq
      rw [if_pos hfirst, List.takeWhile_eq_self_iff.mpr hdigits,
        List.dropWhile_eq_nil_iff.mpr hdigits]
    · next heq => cases heq
  have hunsigned : unsigned (digits.length + 1) false (c :: digits) =
      .error (.tooManyDigits (c :: digits).length) := by
    simp only [unsigned, hwhole, fraction, exponent?, List.isEmpty_nil, Bool.not_true,
      Bool.false_eq_true, if_false, if_pos hlong]
  have hhalt : parseText (c :: digits) = .error (.tooManyDigits (c :: digits).length) := by
    unfold parseText
    split
    · next heq =>
      cases heq
      exact absurd rfl hmark
    · rw [hskip, value_of_isDigit hfirst, hunsigned]
      rfl
  rw [parse, String.toList_ofList, hhalt]

end NearMiss.Json
