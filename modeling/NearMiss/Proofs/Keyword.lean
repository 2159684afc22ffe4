import NearMiss.Proofs.Cut

/-!
# The keyword before a declaration

An exported letter is no blank and continues a word. So a keyword without exported letters that
begins a line ends before the declaration of that line and does not depend on it.
-/

namespace NearMiss.Declaration

open Text

/-- Exported names begin with the letters from A to Z. -/
theorem isExported_iff {c : Char} : isExported c = true ↔ 65 ≤ c.toNat ∧ c.toNat ≤ 90 := by
  simp only [isExported, Bool.and_eq_true, decide_eq_true_eq, Char.le_def, UInt32.le_iff_toNat_le]
  rfl

/-- Exported letters are no blanks. -/
theorem isBlank_of_isExported {c : Char} (hc : isExported c = true) : isBlank c = false := by
  obtain ⟨hlow, hhigh⟩ := isExported_iff.mp hc
  simp only [isBlank, Bool.or_eq_false_iff, Bool.and_eq_false_iff, decide_eq_false_iff_not,
    beq_eq_false_iff_ne]
  omega

/-- No keyword ends where an exported letter follows. -/
theorem continuesWord_of_isExported {c : Char} (hc : isExported c = true) :
    continuesWord c = true := by
  have hascii : c.toNat < 0x80 := by
    have := (isExported_iff.mp hc).2
    omega
  have hupper : c.isUpper = true := by
    have hbounds : 'A'.val ≤ c.val ∧ c.val ≤ 'Z'.val := by
      simpa [isExported, Char.le_def] using hc
    exact decide_eq_true hbounds
  have halphanum : c.isAlphanum = true := by
    change ((c.isUpper || c.isLower) || c.isDigit) = true
    rw [hupper, Bool.true_or, Bool.true_or]
  simp [continuesWord, isAlphanumeric, hascii, halphanum]

/-- A keyword stands in the text and ends before another word begins there. -/
def keywordWithin (keyword text : List Char) : Bool :=
  keyword.isPrefixOf text &&
    match text.drop keyword.length with
    | [] => false
    | c :: _ => !continuesWord c

/-- Trimming a text keeps what stands in front of an exported character but for leading blanks. -/
theorem trim_append_exported {c : Char} (hc : isExported c = true) (before after : List Char) :
    ∃ kept, trim (before ++ c :: after) = trimLeft before ++ c :: kept := by
  have hblank := isBlank_of_isExported hc
  obtain ⟨kept, hkept⟩ := exists_trimRight_cons hblank after
  have hleft : trimLeft (before ++ c :: after) = trimLeft before ++ c :: after := by
    rw [trimLeft, List.dropWhile_append]
    split
    · next hnil =>
      rw [List.isEmpty_iff] at hnil
      rw [trimLeft, hnil, List.nil_append]
      exact trimLeft_cons_of_not_blank hblank
    · rfl
  exact ⟨kept, by rw [trim, hleft, trimRight_append_cons hblank, hkept]⟩

/-- A keyword without the letter `c` that begins a text ends before the first `c`. -/
theorem isPrefixOf_append_cons {keyword text kept : List Char} {c : Char} (hc : c ∉ keyword) :
    keyword.isPrefixOf (text ++ c :: kept) = keyword.isPrefixOf text := by
  rw [Bool.eq_iff_iff, List.isPrefixOf_iff_prefix, List.isPrefixOf_iff_prefix]
  constructor
  · intro h
    rcases Nat.lt_or_ge text.length keyword.length with hlong | hshort
    · have htext : text ++ [c] <+: text ++ c :: kept := ⟨kept, by simp⟩
      have hletter : text ++ [c] <+: keyword :=
        List.prefix_of_prefix_length_le htext h (by rw [List.length_append]; exact hlong)
      exact absurd (hletter.subset (by simp)) hc
    · exact List.prefix_of_prefix_length_le h (List.prefix_append text _) hshort
  · exact fun h => h.trans (List.prefix_append text _)

/-- Whether a line begins with a keyword is decided before an exported name, if the keyword has no
exported letter. -/
theorem startsWithKeyword_append {keyword : String}
    (hkeyword : ExportFree keyword.toList) {name : List Char}
    (hname : ∃ c ∈ name.head?, isExported c = true) (before after : List Char) :
    startsWithKeyword (String.ofList (before ++ (name ++ after))) keyword =
      keywordWithin keyword.toList (trimLeft before) := by
  obtain ⟨c, hhead, hc⟩ := hname
  obtain ⟨rest, rfl⟩ := List.head?_eq_some_iff.mp hhead
  obtain ⟨kept, hkept⟩ := trim_append_exported hc before (rest ++ after)
  have hcontinues := continuesWord_of_isExported hc
  have hnot : c ∉ keyword.toList := by
    intro hmem
    simp [hkeyword c hmem] at hc
  simp only [startsWithKeyword, keywordWithin, String.toList_ofList, List.cons_append, hkept,
    String.length_toList, isPrefixOf_append_cons hnot]
  by_cases hwithin : keyword.toList.isPrefixOf (trimLeft before) = true
  · have hlength : keyword.length ≤ (trimLeft before).length := by
      rw [← String.length_toList]
      exact (List.isPrefixOf_iff_prefix.mp hwithin).length_le
    rw [List.drop_append_of_le_length hlength]
    cases (trimLeft before).drop keyword.length with
    | nil => simp [hcontinues]
    | cons d rest => rfl
  · simp [hwithin]

end NearMiss.Declaration
