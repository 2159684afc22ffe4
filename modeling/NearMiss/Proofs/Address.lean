import NearMiss.Settings.Basic
import Mathlib.Data.List.Basic

/-!
# Addresses of releases

A plain template is literal text, in which every brace is written twice, with the field for the
version at one place or more. It is filled in as it reads: the literal text stands there with single
braces, and the version stands unchanged in place of each field, also if there are braces in it. So
the address tells the version, and different releases have different addresses.
-/

namespace NearMiss

namespace Template

/-! ## Plain templates -/

/-- A part of a plain template. -/
inductive PlainPart where
  /-- Text that stands for itself. -/
  | literal (text : List Char)
  /-- The field for the version. -/
  | version
  deriving DecidableEq, Repr

/-- A text with every brace written twice. -/
def doubled (s : List Char) : List Char :=
  s.flatMap fun c => if c = '{' ∨ c = '}' then [c, c] else [c]

namespace PlainPart

/-- The part as it is written in a template. -/
def written : PlainPart → List Char
  | literal s => doubled s
  | version => "\x7bversion\x7d".toList

/-- The part with a version filled in. -/
def filled (release : List Char) : PlainPart → List Char
  | literal s => s
  | version => release

/-- The pieces that the part is cut into. -/
def pieces : PlainPart → List Piece
  | literal s => s.map .literal
  | version => [.field ⟨"version".toList, none, []⟩]

end PlainPart

/-! ## Cutting -/

/-- A text is cut into the given pieces whenever there are as many steps as it has characters. -/
def CutsInto (s : List Char) (found : List Piece) : Prop :=
  ∀ fuel, s.length ≤ fuel → piecesUpTo fuel s = found

namespace CutsInto

/-- Nothing is cut into no pieces. -/
theorem nil : CutsInto [] [] := by
  intro fuel _
  cases fuel <;> rfl

/-- A doubled brace is cut off as one character. -/
theorem brace {c : Char} (hc : c = '{' ∨ c = '}') {s : List Char} {found : List Piece}
    (h : CutsInto s found) : CutsInto (c :: c :: s) (.literal c :: found) := by
  intro fuel hfuel
  rw [List.length_cons, List.length_cons] at hfuel
  obtain ⟨fuel, rfl⟩ : ∃ n, fuel = n + 1 := ⟨fuel - 1, by omega⟩
  have hlater := h fuel (by omega)
  rcases hc with rfl | rfl
  · exact congrArg _ hlater
  · exact congrArg _ hlater

/-- A character that is no brace is cut off as itself. -/
theorem plain {c : Char} (hc : ¬(c = '{' ∨ c = '}')) {s : List Char} {found : List Piece}
    (h : CutsInto s found) : CutsInto (c :: s) (.literal c :: found) := by
  intro fuel hfuel
  rw [List.length_cons] at hfuel
  obtain ⟨fuel, rfl⟩ : ∃ n, fuel = n + 1 := ⟨fuel - 1, by omega⟩
  have hlater := h fuel (by omega)
  rw [not_or] at hc
  unfold piecesUpTo
  split <;> simp_all

/-- The place of the version is cut off as that place. -/
theorem version {s : List Char} {found : List Piece} (h : CutsInto s found) :
    CutsInto (PlainPart.version.written ++ s) (PlainPart.version.pieces ++ found) := by
  intro fuel hfuel
  have hlength : PlainPart.version.written.length = 9 := by decide
  rw [List.length_append, hlength] at hfuel
  obtain ⟨fuel, rfl⟩ : ∃ n, fuel = n + 1 := ⟨fuel - 1, by omega⟩
  have hlater := h fuel (by omega)
  exact congrArg _ hlater

/-- A text with its braces doubled is cut into its characters. -/
theorem doubled_append (text : List Char) {s : List Char} {found : List Piece}
    (h : CutsInto s found) : CutsInto (doubled text ++ s) (text.map .literal ++ found) := by
  induction text with
  | nil => exact h
  | cons c text ih =>
    rw [doubled, List.flatMap_cons, List.append_assoc]
    split
    · next hc => exact ih.brace hc
    · next hc => exact ih.plain hc

/-- A plain template is cut into the pieces of its parts. -/
theorem parts (parts : List PlainPart) :
    CutsInto (parts.flatMap PlainPart.written) (parts.flatMap PlainPart.pieces) := by
  induction parts with
  | nil => exact nil
  | cons part parts ih =>
    rw [List.flatMap_cons, List.flatMap_cons]
    cases part with
    | literal text => exact ih.doubled_append text
    | version => exact ih.version

end CutsInto

/-! ## Filling in -/

variable (release : List Char) (nested : List Char → Except TemplateError (List Char))

/-- The field with the name of the version stands for it. -/
theorem valueOf_version : valueOf release "version".toList = .ok (.text release) :=
  rfl

/-- A text without a layout stays as it is. -/
theorem layOut_nil : layOut [] (.text release) = .ok release := by
  have hlayout : Layout.parse [] = .ok ⟨' ', .left, 0, none⟩ := rfl
  have hwidth : ¬maxColumns < 0 := Nat.not_lt_zero _
  simp [layOut, hlayout, Layout.apply, hwidth, bind, Except.bind]

/-- Literal text is put before what follows it. -/
theorem fill_literals_append (text : List Char) (later : List Piece) :
    fill release nested (text.map .literal ++ later) =
      (text ++ ·) <$> fill release nested later := by
  induction text with
  | nil => simp
  | cons c text ih =>
    rw [List.map_cons, List.cons_append, fill, ih]
    cases fill release nested later <;> rfl

/-- The version is put before what follows its field. -/
theorem fill_version_append (later : List Piece) :
    fill release nested (PlainPart.version.pieces ++ later) =
      (release ++ ·) <$> fill release nested later := by
  have hplain : ([] : List Char).contains '{' = false := rfl
  rw [PlainPart.pieces, List.singleton_append, fill, valueOf_version]
  simp only [convert, hplain, layOut_nil, bind, Except.bind, pure, Except.pure]
  cases fill release nested later <;> rfl

/-- The pieces of a plain template are filled in part by part. -/
theorem fill_parts (parts : List PlainPart) :
    fill release nested (parts.flatMap PlainPart.pieces) =
      .ok (parts.flatMap (PlainPart.filled release)) := by
  induction parts with
  | nil => rfl
  | cons part parts ih =>
    rw [List.flatMap_cons, List.flatMap_cons]
    cases part with
    | literal text => rw [PlainPart.pieces, fill_literals_append, ih]; rfl
    | version => rw [fill_version_append, ih]; rfl

/-- A plain template is filled in as it reads. -/
theorem render_parts {template : String} {parts : List PlainPart}
    (htemplate : template.toList = parts.flatMap PlainPart.written) (version : String) :
    render template version =
      .ok (String.ofList (parts.flatMap (PlainPart.filled version.toList))) := by
  have hpieces : pieces template.toList = parts.flatMap PlainPart.pieces := by
    rw [htemplate]
    exact CutsInto.parts parts _ (Nat.le_refl _)
  rw [render, expand, hpieces, fill_parts]
  rfl

/-! ## Telling the version from the address -/

/-- Each field adds the length of the version. -/
theorem length_flatMap_filled (parts : List PlainPart) :
    (parts.flatMap (PlainPart.filled release)).length =
      (parts.flatMap (PlainPart.filled [])).length + parts.count .version * release.length := by
  induction parts with
  | nil => simp
  | cons part parts ih =>
    rw [List.flatMap_cons, List.flatMap_cons, List.length_append, List.length_append, ih]
    cases part with
    | literal text =>
      rw [List.count_cons_of_ne (by simp)]
      simp only [PlainPart.filled]
      omega
    | version =>
      rw [List.count_cons_self, Nat.succ_mul]
      simp only [PlainPart.filled, List.length_nil]
      omega

/-- Two versions that fill a field alike are the same. They are as long as each other, so that the
first field begins and ends at the same places for both. -/
theorem eq_of_flatMap_filled_eq {parts : List PlainPart} (hfield : PlainPart.version ∈ parts)
    {release release' : List Char}
    (h : parts.flatMap (PlainPart.filled release) = parts.flatMap (PlainPart.filled release')) :
    release = release' := by
  have hlength : release.length = release'.length := by
    have hwhole := congrArg List.length h
    rw [length_flatMap_filled, length_flatMap_filled release'] at hwhole
    exact Nat.eq_of_mul_eq_mul_left (List.count_pos_iff.mpr hfield) (Nat.add_left_cancel hwhole)
  obtain ⟨before, after, rfl⟩ := List.append_of_mem hfield
  have hbefore : (before.flatMap (PlainPart.filled release)).length =
      (before.flatMap (PlainPart.filled release')).length := by
    rw [length_flatMap_filled, length_flatMap_filled release', hlength]
  rw [List.flatMap_append, List.flatMap_append, List.flatMap_cons, List.flatMap_cons] at h
  exact (List.append_inj (List.append_inj h hbefore).2 hlength).1

end Template

namespace Settings

open Template

/-- A version that names a tagged release: there is one, and it is not the newest state. -/
structure IsTagged (version : String) : Prop where
  /-- A version is given. -/
  ne_empty : version ≠ ""
  /-- The newest state is not meant. -/
  ne_head : version ≠ headVersion

/-- A tagged release has the address that the template gives. -/
theorem archiveUrl_of_isTagged (settings : Settings) {version : String}
    (hversion : IsTagged version) :
    settings.archiveUrl (some version) = render settings.archiveUrlTemplate version := by
  have hasked : settings.version (some version) = version := if_neg hversion.ne_empty
  rw [archiveUrl, hasked]
  exact if_neg hversion.ne_head

/-- With a plain template the address of a tagged release is the literal text with the version in
place of each field, unchanged whatever it holds, and different versions have different
addresses. -/
theorem archiveUrl_verbatim {settings : Settings} {parts : List PlainPart}
    (htemplate : settings.archiveUrlTemplate.toList = parts.flatMap PlainPart.written)
    (hfield : PlainPart.version ∈ parts) :
    (∀ version, IsTagged version →
      settings.archiveUrl (some version) =
        .ok (String.ofList (parts.flatMap (PlainPart.filled version.toList)))) ∧
    ∀ version version', IsTagged version → IsTagged version' → version ≠ version' →
      settings.archiveUrl (some version) ≠ settings.archiveUrl (some version') := by
  have haddress : ∀ version, IsTagged version → settings.archiveUrl (some version) =
      .ok (String.ofList (parts.flatMap (PlainPart.filled version.toList))) := by
    intro version hversion
    rw [archiveUrl_of_isTagged settings hversion, render_parts htemplate]
  refine ⟨haddress, fun version version' hversion hversion' hne hsame => hne ?_⟩
  rw [haddress version hversion, haddress version' hversion', Except.ok.injEq,
    String.ofList_inj] at hsame
  exact String.toList_inj.mp (eq_of_flatMap_filled_eq hfield hsame)

/-- Braces around a field and in the version, and two versions of which one begins with the
other. -/
theorem archiveUrl_verbatim_braces :
    let settings : Settings :=
      { archiveUrlTemplate := "tags/\x7b\x7b\x7bversion\x7d\x7d\x7d/go\x7bversion\x7d.tgz" }
    settings.archiveUrl (some "1.\x7b2\x7d") =
        .ok "tags/\x7b1.\x7b2\x7d\x7d/go1.\x7b2\x7d.tgz" ∧
      settings.archiveUrl (some "1.2") ≠ settings.archiveUrl (some "1.22") := by
  intro settings
  let parts : List PlainPart :=
    [.literal "tags/\x7b".toList, .version, .literal "\x7d/go".toList, .version,
      .literal ".tgz".toList]
  have htemplate : settings.archiveUrlTemplate.toList = parts.flatMap PlainPart.written := by decide
  obtain ⟨haddress, hdiffer⟩ := archiveUrl_verbatim htemplate (by decide)
  refine ⟨?_, hdiffer "1.2" "1.22" ⟨by decide, by decide⟩ ⟨by decide, by decide⟩ (by decide)⟩
  exact haddress "1.\x7b2\x7d" ⟨by decide, by decide⟩

example : ({} : Settings).archiveUrlTemplate.toList =
    [PlainPart.literal "https://github.com/golang/go/archive/refs/tags/go".toList, .version,
      .literal ".tar.gz".toList].flatMap PlainPart.written := by
  decide

end Settings

end NearMiss
