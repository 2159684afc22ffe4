import NearMiss.Json.Parser
import NearMiss.Json.Printer
import Mathlib.Data.List.Basic

/-!
# Strings in JSON text

A string is written between quotes, with its quotes, backslashes and control characters escaped, and
is read back as it was. Only characters of a string can be written, so no half of a surrogate pair
comes up, and no carriage return is ever written as it is.
-/

namespace NearMiss.Json

/-- A reader goes on with what was read. -/
theorem ok_bind {ε α β : Type} (a : α) (f : α → Except ε β) : (Except.ok a >>= f) = f a :=
  rfl

/-! ## Reading what is written for one character -/

/-- A quotation mark ends a string. -/
theorem stringCodes_quote (opening : Nat) (rest : List Char) :
    stringCodes opening ('"' :: rest) = .ok ([], rest) := by
  rw [stringCodes]

/-- The step lemma of the reader, for a backslash and one more character. -/
theorem stringCodes_simple {c d : Char} (hescape : simpleEscape? c = some d) {opening : Nat}
    {s rest : List Char} {codes : List Nat} (hs : stringCodes opening s = .ok (codes, rest)) :
    stringCodes opening ('\\' :: c :: s) = .ok (d.toNat :: codes, rest) := by
  have hu : c ≠ 'u' := by
    rintro rfl
    simp [simpleEscape?] at hescape
  simp [stringCodes, hu, hescape, hs]

/-- A hexadecimal digit is read as it is written. -/
theorem hexDigit?_hexChar : ∀ n < 16, hexDigit? (hexChar n) = some n := by
  decide

/-- Two zeros and two digits spell a number below 256. -/
theorem hexFour?_hexChar {n : Nat} (hn : n < 256) :
    hexFour? '0' '0' (hexChar (n / 16)) (hexChar (n % 16)) = some n := by
  have hzero : hexDigit? '0' = some 0 := by decide
  have hhigh := hexDigit?_hexChar (n / 16) (by omega)
  have hlow := hexDigit?_hexChar (n % 16) (by omega)
  simp only [hexFour?, hzero, hhigh, hlow, Option.bind_eq_bind, Option.bind_some, Option.pure_def,
    Option.some.injEq]
  omega

/-- The step lemma for an escaped control character. The reader looks one character past the digits,
and what follows a character in a string is never empty. -/
theorem stringCodes_control {n : Nat} (hn : n < 256) {opening : Nat} {s rest : List Char}
    {codes : List Nat} (hs : stringCodes opening s = .ok (codes, rest)) :
    stringCodes opening
      ('\\' :: 'u' :: '0' :: '0' :: hexChar (n / 16) :: hexChar (n % 16) :: s) =
        .ok (n :: codes, rest) := by
  cases s with
  | nil => simp [stringCodes] at hs
  | cons e s => simp only [stringCodes, hexFour?_hexChar hn, hs, ok_bind]; rfl

/-- The step lemma for a character that is written as it is. -/
theorem stringCodes_plain {c : Char} (hquote : c ≠ '"') (hbackslash : c ≠ '\\')
    (hcontrol : ¬c.toNat < 0x20) {opening : Nat} {s rest : List Char} {codes : List Nat}
    (hs : stringCodes opening s = .ok (codes, rest)) :
    stringCodes opening (c :: s) = .ok (c.toNat :: codes, rest) := by
  simp [stringCodes, hbackslash, hcontrol, hs]

/-- What is written for a character is read as that character. -/
theorem stringCodes_escapeChar (c : Char) {opening : Nat} {s rest : List Char} {codes : List Nat}
    (hs : stringCodes opening s = .ok (codes, rest)) :
    stringCodes opening (escapeChar c ++ s) = .ok (c.toNat :: codes, rest) := by
  fun_cases escapeChar c with
  | case1 => exact stringCodes_simple rfl hs
  | case2 => exact stringCodes_simple rfl hs
  | case3 => exact stringCodes_simple rfl hs
  | case4 => exact stringCodes_simple rfl hs
  | case5 => exact stringCodes_simple rfl hs
  | case6 => exact stringCodes_simple rfl hs
  | case7 => exact stringCodes_simple rfl hs
  | case8 => exact stringCodes_control (by omega) hs
  | case9 => exact stringCodes_plain ‹_› ‹_› ‹_› hs

/-! ## Reading a whole string -/

/-- What is written for a text is read as the code numbers of its characters. -/
theorem stringCodes_escaped (opening : Nat) (s rest : List Char) :
    stringCodes opening (s.flatMap escapeChar ++ '"' :: rest) = .ok (s.map Char.toNat, rest) := by
  induction s with
  | nil => exact stringCodes_quote opening rest
  | cons c s ih =>
    rw [List.flatMap_cons, List.append_assoc]
    exact stringCodes_escapeChar c ih

/-- The number of a character is no half of a surrogate pair. -/
theorem not_half_toNat (c : Char) : isHighHalf c.toNat = false ∧ isLowHalf c.toNat = false := by
  have hvalid : c.toNat < 0xD800 ∨ 0xDFFF < c.toNat ∧ c.toNat < 0x110000 := c.valid
  simp only [isHighHalf, isLowHalf, Bool.and_eq_false_iff, decide_eq_false_iff_not]
  omega

/-- The numbers of characters give the characters back. -/
theorem joinHalves_map_toNat (s : List Char) : joinHalves (s.map Char.toNat) = s := by
  induction s with
  | nil => rfl
  | cons c s ih =>
    obtain ⟨hhigh, hlow⟩ := not_half_toNat c
    cases s with
    | nil => simp [joinHalves, hhigh, hlow]
    | cons d s =>
      rw [List.map_cons] at ih ⊢
      rw [List.map_cons, joinHalves, ih]
      simp [hhigh, hlow]

/-- A string is read back behind its opening quote. -/
theorem stringBody_escaped (s : String) (rest : List Char) :
    stringBody (s.toList.flatMap escapeChar ++ '"' :: rest) = .ok (s, rest) := by
  have hjoin : String.ofList (joinHalves (s.toList.map Char.toNat)) = s := by
    rw [joinHalves_map_toNat, String.ofList_toList]
  simp only [stringBody, stringCodes_escaped, ok_bind, hjoin]
  rfl

/-! ## Carriage returns -/

/-- The digits of an escape are no carriage returns. -/
theorem hexChar_ne_return : ∀ n < 16, hexChar n ≠ '\r' := by
  decide

/-- No character is escaped with a carriage return. -/
theorem not_mem_escapeChar (c : Char) : '\r' ∉ escapeChar c := by
  fun_cases escapeChar c with
  | case1 => decide
  | case2 => decide
  | case3 => decide
  | case4 => decide
  | case5 => decide
  | case6 => decide
  | case7 => decide
  | case8 =>
    have hhigh := hexChar_ne_return (c.toNat / 16) (by omega)
    have hlow := hexChar_ne_return (c.toNat % 16) (by omega)
    simp [hhigh.symm, hlow.symm]
  | case9 => simpa using Ne.symm ‹_›

/-- No string is written with a carriage return in it. -/
theorem not_mem_quote (s : String) : '\r' ∉ quote s := by
  simp [quote, not_mem_escapeChar]

end NearMiss.Json
