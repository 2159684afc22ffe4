import NearMiss.FileTree.Basic
import NearMiss.Proofs.Markup
import NearMiss.Text.Utf8
import Mathlib.Tactic.SplitIfs

/-!
# The wording of failures

What is said about a file that cannot be read names its path, in quotes or not, and otherwise has no
brackets that begin a tag. So a path without tags makes a message without tags.
-/

namespace NearMiss

open Console

/-! ## Numbers and lists -/

namespace Text

/-- A character that is in no part and not between them is not in what is joined. -/
theorem not_mem_intercalate {c : Char} {mark : List Char} {parts : List (List Char)}
    (hmark : c ∉ mark) (hparts : ∀ part ∈ parts, c ∉ part) : c ∉ mark.intercalate parts := by
  induction parts with
  | nil => exact List.not_mem_nil
  | cons part later ih =>
    obtain ⟨hpart, hlater⟩ := List.forall_mem_cons.mp hparts
    cases later with
    | nil => rwa [List.intercalate_singleton]
    | cons next later =>
      rw [List.intercalate_cons_cons, List.mem_append, List.mem_append, not_or, not_or]
      exact ⟨⟨hpart, hmark⟩, ih hlater⟩

/-- A digit has a number below the base. -/
theorem exists_digitChar_of_mem_toDigits {base n : Nat} (hbase : 1 < base) {c : Char}
    (hc : c ∈ Nat.toDigits base n) : ∃ digit < base, c = digit.digitChar := by
  induction n using Nat.strongRecOn with
  | ind n ih =>
    rw [Nat.toDigits_eq_if hbase] at hc
    split at hc
    · next hlt => exact ⟨n, hlt, List.mem_singleton.mp hc⟩
    · next hle =>
      rcases List.mem_append.mp hc with hfront | hlast
      · exact ih (n / base) (Nat.div_lt_self (by omega) hbase) hfront
      · exact ⟨n % base, Nat.mod_lt n (by omega), List.mem_singleton.mp hlast⟩

/-- No digit is a bracket. -/
theorem bracket_not_mem_toDigits {base : Nat} (hbase : 1 < base) (hle : base ≤ 16) (n : Nat) :
    '[' ∉ Nat.toDigits base n := by
  intro hmem
  obtain ⟨digit, hdigit, hbracket⟩ := exists_digitChar_of_mem_toDigits hbase hmem
  have hnone : ∀ d < 16, '[' ≠ Nat.digitChar d := by decide
  exact hnone digit (by omega) hbracket

/-- No number is written with a bracket. -/
theorem bracket_not_mem_toString (n : Nat) : '[' ∉ (toString n).toList := by
  rw [Nat.toString_eq_repr, Nat.toList_repr]
  exact bracket_not_mem_toDigits (by omega) (by omega) n

/-- No octet is written with a bracket. -/
theorem bracket_not_mem_hexOctet (b : UInt8) : '[' ∉ (hexOctet b).toList := by
  have hdigit (n : Nat) : '[' ≠ (Nat.toDigits 16 n).headD '0' := by
    intro hhead
    cases hdigits : Nat.toDigits 16 n with
    | nil => exact Nat.toDigits_ne_nil hdigits
    | cons c digits =>
      rw [hdigits] at hhead
      have hmem : '[' ∈ Nat.toDigits 16 n := by
        rw [hdigits, hhead]
        exact List.mem_cons_self
      exact bracket_not_mem_toDigits (by omega) (by omega) n hmem
  rw [hexOctet, String.toList_ofList]
  simp only [List.mem_cons, List.not_mem_nil, or_false, not_or]
  exact ⟨hdigit _, hdigit _⟩

/-! ## Quoted texts -/

/-- No padded number is written with a bracket. -/
theorem bracket_not_mem_hexPadded (width n : Nat) : '[' ∉ hexPadded width n := by
  rw [hexPadded, List.mem_append, not_or]
  refine ⟨fun hmem => ?_, bracket_not_mem_toDigits (by omega) (by omega) n⟩
  exact absurd (List.eq_of_mem_replicate hmem) (by decide)

/-- A quoted character stands for itself or is a backslash and more without brackets. -/
theorem quoteChar_cases (shown : Char → Bool) {mark : Char} (hmark : mark ≠ '[') (c : Char) :
    quoteChar shown mark c = [c] ∨
      ∃ escape, quoteChar shown mark c = '\\' :: escape ∧ '[' ∉ escape := by
  have hhex (letter : Char) (width : Nat) (hletter : '[' ≠ letter) :
      '[' ∉ letter :: hexPadded width c.toNat := by
    rw [List.mem_cons, not_or]
    exact ⟨hletter, bracket_not_mem_hexPadded width c.toNat⟩
  unfold quoteChar
  split_ifs with hitself
  · refine .inr ⟨[c], rfl, ?_⟩
    rw [Bool.or_eq_true, decide_eq_true_eq, decide_eq_true_eq] at hitself
    rw [List.mem_singleton]
    rintro rfl
    rcases hitself with hbracket | hbracket
    · exact hmark hbracket.symm
    · exact absurd hbracket (by decide)
  · exact .inr ⟨['n'], rfl, by decide⟩
  · exact .inr ⟨['r'], rfl, by decide⟩
  · exact .inr ⟨['t'], rfl, by decide⟩
  · exact .inl rfl
  · exact .inr ⟨_, rfl, hhex 'x' 2 (by decide)⟩
  · exact .inr ⟨_, rfl, hhex 'u' 4 (by decide)⟩
  · exact .inr ⟨_, rfl, hhex 'U' 8 (by decide)⟩

/-- Quoting adds no tags. -/
theorem tagFree_flatMap_quoteChar (shown : Char → Bool) {mark : Char} (hmark : mark ≠ '[')
    (hopens : opensTag mark = false) {s : List Char} (hs : TagFree s) :
    TagFree (s.flatMap (quoteChar shown mark) ++ [mark]) := by
  induction s with
  | nil => exact tagFree_cons.mpr ⟨fun hbracket => absurd hbracket hmark, tagFree_nil⟩
  | cons c rest ih =>
    obtain ⟨hbracket, hplain⟩ := tagFree_cons.mp hs
    have hrest := ih hplain
    -- What stands behind a bracket that begins no tag is quoted by something that begins none.
    have hhead : c = '[' →
        (rest.flatMap (quoteChar shown mark) ++ [mark]).head?.any opensTag = false := by
      intro hc
      cases rest with
      | nil => exact hopens
      | cons d rest =>
        rcases quoteChar_cases shown hmark d with hd | ⟨escape, hd, -⟩
        · rw [List.flatMap_cons, hd]
          exact hbracket hc
        · rw [List.flatMap_cons, hd]
          rfl
    rw [List.flatMap_cons, List.append_assoc]
    rcases quoteChar_cases shown hmark c with hc | ⟨escape, hc, hescape⟩
    · rw [hc]
      exact tagFree_cons.mpr ⟨hhead, hrest⟩
    · rw [hc]
      refine .append_of_not_mem ?_ hrest
      rw [List.mem_cons, not_or]
      exact ⟨by decide, hescape⟩

/-- A text without tags has none between quotes. -/
theorem tagFree_quoted {s : String} (hs : TagFree s.toList) : TagFree (quoted s).toList := by
  have hquotes : ∀ mark : Char, mark = '"' ∨ mark = '\'' →
      TagFree (mark :: (s.toList.flatMap (quoteChar isPrintable mark) ++ [mark])) := by
    intro mark hmark
    have hplain : mark ≠ '[' ∧ opensTag mark = false := by
      rcases hmark with rfl | rfl <;> decide
    refine tagFree_cons.mpr ⟨fun hbracket => absurd hbracket hplain.1, ?_⟩
    exact tagFree_flatMap_quoteChar isPrintable hplain.1 hplain.2 hs
  rw [quoted, quotedBy, String.toList_ofList]
  apply hquotes
  split
  · exact .inl rfl
  · exact .inr rfl

/-! ## Messages -/

/-- The failure to decode a text is worded without tags. -/
theorem tagFree_utf8Error (error : Utf8Error) : TagFree error.message.toList := by
  refine .of_not_mem ?_
  have hflaw : '[' ∉ error.flaw.message.toList := by
    cases error.flaw <;> decide
  unfold Utf8Error.message
  dsimp only
  have hplace : ∀ place : String, '[' ∉ place.toList →
      '[' ∉ s!"'utf-8' codec can't decode {place}: {error.flaw.message}".toList := by
    intro place hplace
    simp only [String.toList_append, List.mem_append, not_or]
    exact ⟨⟨⟨by decide, hplace⟩, by decide⟩, hflaw⟩
  split
  · next b _ =>
    apply hplace
    simp only [String.toList_append, List.mem_append, not_or]
    exact ⟨⟨⟨by decide, bracket_not_mem_hexOctet b⟩, by decide⟩, bracket_not_mem_toString _⟩
  · apply hplace
    simp only [String.toList_append, List.mem_append, not_or]
    exact ⟨⟨⟨by decide, bracket_not_mem_toString _⟩, by decide⟩, bracket_not_mem_toString _⟩

end Text

/-- The wording of a failure has no tags if the path has none. -/
theorem FileError.tagFree_message {error : FileError} (hpath : TagFree error.path.text.toList) :
    TagFree error.message.toList := by
  have hcause : TagFree error.cause.message.toList := by
    cases error.cause <;> decide +kernel
  have hquoted : TagFree ([':', ' '] ++ (Text.quoted error.path.text).toList) :=
    .append_of_not_mem (by decide) (Text.tagFree_quoted hpath)
  unfold FileError.message
  split
  · have hsplit : (s!"{error.cause.message}: {Text.quoted error.path.text}").toList =
        error.cause.message.toList ++ ([':', ' '] ++ (Text.quoted error.path.text).toList) := by
      simp only [String.toList_append, List.append_assoc]
      rfl
    rw [hsplit]
    exact hcause.append hquoted rfl
  · exact hcause

end NearMiss
