import NearMiss.Text.Utf8
import Mathlib.Data.List.Basic
import Mathlib.Tactic.SplitIfs

/-!
# Texts as octets and back

The octets of a text are read as that text, and octets that are read are those of a text. A
character takes one octet, or an octet that begins a sequence and up to three that continue it with
six bits each. The limits on the first of these let pass whatever the number of a character gives,
and nothing else.
-/

namespace NearMiss.Text

/-- The octet that continues a sequence with the given bits. -/
def continuation (bits : Nat) : UInt8 :=
  (0x80 + bits).toUInt8

/-- A small number is an octet. -/
theorem toNat_toUInt8 {n : Nat} (hn : n < 256) : n.toUInt8.toNat = n :=
  UInt8.toNat_ofNat_of_lt' hn

/-- An octet below the limit is a character. -/
theorem decodeFrom_single {offset : Nat} {b : UInt8} (hb : b.toNat < 0x80) (rest : List UInt8) :
    decodeFrom offset none (b :: rest) =
      (Char.ofNat b.toNat :: ·) <$> decodeFrom (offset + 1) none rest := by
  simp [decodeFrom, hb]

/-- An octet above the limit begins a character. -/
theorem decodeFrom_begin {offset : Nat} {b : UInt8} {p : Utf8Pending} (hb : ¬b.toNat < 0x80)
    (hp : Utf8Pending.begin? b = some p) (rest : List UInt8) :
    decodeFrom offset none (b :: rest) = decodeFrom (offset + 1) (some p) rest := by
  simp [decodeFrom, hb, hp]

/-- The next bits of a sequence under way are within its limits. -/
def Utf8Pending.Admits (p : Utf8Pending) (bits : Nat) : Prop :=
  p.low.toNat ≤ 0x80 + bits ∧ 0x80 + bits ≤ p.high.toNat

/-- An octet that is admitted is within the limits and has its bits. -/
theorem Utf8Pending.Admits.limits {p : Utf8Pending} {bits : Nat} (h : p.Admits bits) :
    (p.low ≤ continuation bits && continuation bits ≤ p.high) = true ∧
      (continuation bits).toNat - 0x80 = bits := by
  have hbits : (continuation bits).toNat = 0x80 + bits :=
    toNat_toUInt8 (Nat.lt_of_le_of_lt h.2 p.high.toNat_lt)
  simp [UInt8.le_iff_toNat_le, hbits, h.1, h.2]

/-- The bits of the octets that are due complete the number of a character. -/
theorem decodeFrom_pending {offset : Nat} {p : Utf8Pending} {bits : Nat} {later : List Nat}
    (hdue : p.due = later.length + 1) (hbits : p.Admits bits) (hlater : ∀ b ∈ later, b < 64)
    (rest : List UInt8) :
    decodeFrom offset (some p) ((bits :: later).map continuation ++ rest) =
      (Char.ofNat ((bits :: later).foldl (fun value b => value * 64 + b) p.value) :: ·) <$>
        decodeFrom (offset + (bits :: later).length) none rest := by
  induction later generalizing offset p bits with
  | nil =>
    have hlast : p.due ≤ 1 := by simp [hdue]
    simp [decodeFrom, hbits.limits, hlast]
  | cons next later ih =>
    obtain ⟨hnext, hlater⟩ := List.forall_mem_cons.mp hlater
    have hmore : ¬p.due ≤ 1 := by simp [hdue]
    -- Behind the first octet the limits are the loose ones, which any six bits meet.
    have hstep : decodeFrom offset (some p) ((bits :: next :: later).map continuation ++ rest) =
        decodeFrom (offset + 1)
          (some ⟨p.due - 1, 0x80, 0xBF, p.value * 64 + bits, p.octets ++ [continuation bits]⟩)
          ((next :: later).map continuation ++ rest) := by
      simp [decodeFrom, hbits.limits, hmore]
    have hadmits : Utf8Pending.Admits
        ⟨p.due - 1, 0x80, 0xBF, p.value * 64 + bits, p.octets ++ [continuation bits]⟩ next := by
      refine ⟨Nat.le_add_right _ _, ?_⟩
      show 0x80 + next ≤ 0xBF
      omega
    rw [hstep, ih (by simp [hdue]) hadmits hlater]
    simp [Nat.add_assoc, Nat.add_comm]

/-! ## The octets that begin sequences -/

/-- The octet begins a sequence of the given number of further octets with its own bits `lead`, and
the sequence may go on with the given bits. -/
def Begins (b : UInt8) (due lead bits : Nat) : Prop :=
  0x80 ≤ b.toNat ∧
    ∃ p, Utf8Pending.begin? b = some p ∧ p.due = due ∧ p.value = lead ∧ p.Admits bits

/-- An octet that begins two. -/
theorem begins_two {lead bits : Nat} (hlow : 2 ≤ lead) (hhigh : lead < 32) (hbits : bits < 64) :
    Begins (0xC0 + lead).toUInt8 1 lead bits := by
  have hn : (0xC0 + lead).toUInt8.toNat = 0xC0 + lead := toNat_toUInt8 (by omega)
  refine ⟨by omega, ?_⟩
  simp only [Utf8Pending.begin?, hn, Bool.and_eq_true, decide_eq_true_eq, beq_iff_eq]
  split_ifs <;> simp [Utf8Pending.Admits] <;> omega

/-- Three octets spell no number that two could spell, and no surrogate. -/
theorem begins_three {lead bits : Nat} (hlead : lead < 16) (hbits : bits < 64)
    (hlong : lead = 0 → 32 ≤ bits) (hscalar : lead = 13 → bits < 32) :
    Begins (0xE0 + lead).toUInt8 2 lead bits := by
  have hn : (0xE0 + lead).toUInt8.toNat = 0xE0 + lead := toNat_toUInt8 (by omega)
  refine ⟨by omega, ?_⟩
  simp only [Utf8Pending.begin?, hn, Bool.and_eq_true, decide_eq_true_eq, beq_iff_eq]
  split_ifs <;> simp [Utf8Pending.Admits] <;> omega

/-- Four octets spell no number that three could spell, and none past the last code point. -/
theorem begins_four {lead bits : Nat} (hlead : lead < 5) (hbits : bits < 64)
    (hlong : lead = 0 → 16 ≤ bits) (hlast : lead = 4 → bits < 16) :
    Begins (0xF0 + lead).toUInt8 3 lead bits := by
  have hn : (0xF0 + lead).toUInt8.toNat = 0xF0 + lead := toNat_toUInt8 (by omega)
  refine ⟨by omega, ?_⟩
  simp only [Utf8Pending.begin?, hn, Bool.and_eq_true, decide_eq_true_eq, beq_iff_eq]
  split_ifs <;> simp [Utf8Pending.Admits] <;> omega

/-! ## Characters and texts -/

/-- A sequence gives the character of the number that its bits spell. -/
theorem decodeFrom_sequence {offset lead bits : Nat} {b : UInt8} (later : List Nat) {c : Char}
    (hb : Begins b (later.length + 1) lead bits) (hlater : ∀ b ∈ later, b < 64)
    (hc : (bits :: later).foldl (fun value b => value * 64 + b) lead = c.toNat)
    (rest : List UInt8) :
    ∃ next, decodeFrom offset none (b :: (bits :: later).map continuation ++ rest) =
      (c :: ·) <$> decodeFrom next none rest := by
  obtain ⟨hlarge, p, hp, hdue, rfl, hbits⟩ := hb
  refine ⟨offset + 1 + (bits :: later).length, ?_⟩
  rw [List.cons_append, decodeFrom_begin (Nat.not_lt.mpr hlarge) hp,
    decodeFrom_pending hdue hbits hlater, hc, Char.ofNat_toNat]

/-- The octets of a character are read as that character, whatever follows. -/
theorem decodeFrom_encodeChar (offset : Nat) (c : Char) (rest : List UInt8) :
    ∃ next, decodeFrom offset none (encodeChar c ++ rest) =
      (c :: ·) <$> decodeFrom next none rest := by
  have hscalar : c.toNat < 0xD800 ∨ 0xDFFF < c.toNat ∧ c.toNat < 0x110000 := c.valid
  -- One case for each number of octets; only the last two need that the number is a scalar value.
  rw [encodeChar]
  split_ifs with hone htwo hthree
  · have hn : c.toNat.toUInt8.toNat = c.toNat := toNat_toUInt8 (by omega)
    refine ⟨offset + 1, ?_⟩
    rw [List.singleton_append, decodeFrom_single (by rwa [hn]), hn, Char.ofNat_toNat]
  · have hbegins := @begins_two (c.toNat / 64) (c.toNat % 64) (by omega) (by omega) (by omega)
    refine decodeFrom_sequence [] hbegins (by simp) ?_ rest
    simp only [List.foldl_cons, List.foldl_nil]
    omega
  · have hbegins := @begins_three (c.toNat / 4096) (c.toNat / 64 % 64) (by omega) (by omega)
      (by omega) (by omega)
    refine decodeFrom_sequence [c.toNat % 64] hbegins (by simp; omega) ?_ rest
    simp only [List.foldl_cons, List.foldl_nil]
    omega
  · have hbegins := @begins_four (c.toNat / 262144) (c.toNat / 4096 % 64) (by omega) (by omega)
      (by omega) (by omega)
    refine decodeFrom_sequence [c.toNat / 64 % 64, c.toNat % 64] hbegins (by simp; omega) ?_ rest
    simp only [List.foldl_cons, List.foldl_nil]
    omega

/-- The octets of a text are read as that text, wherever they stand. -/
theorem decodeFrom_encode (offset : Nat) (s : List Char) :
    decodeFrom offset none (encode s) = .ok s := by
  induction s generalizing offset with
  | nil => rfl
  | cons c s ih =>
    obtain ⟨next, hc⟩ := decodeFrom_encodeChar offset c (encode s)
    have hcons : encode (c :: s) = encodeChar c ++ encode s := List.flatMap_cons
    rw [hcons, hc, ih]
    rfl

/-- What is encoded is decoded again. -/
theorem decode_encode (s : List Char) : decode (encode s) = .ok s :=
  decodeFrom_encode 0 s

/-! ## The standard encoding -/

/-- A character has the octets that the standard encoding gives it. -/
theorem encodeChar_eq_utf8EncodeChar (c : Char) : encodeChar c = String.utf8EncodeChar c := by
  have hscalar : c.toNat < 0xD800 ∨ 0xDFFF < c.toNat ∧ c.toNat < 0x110000 := c.valid
  have hone : c.toNat < 0x80 ↔ c.toNat ≤ 127 := Nat.lt_succ_iff
  have htwo : c.toNat < 0x800 ↔ c.toNat ≤ 2047 := Nat.lt_succ_iff
  have hthree : c.toNat < 0x10000 ↔ c.toNat ≤ 65535 := Nat.lt_succ_iff
  have hval : c.val.toNat = c.toNat := rfl
  simp only [encodeChar, String.utf8EncodeChar, hval, hone, htwo, hthree,
    Nat.add_comm 0x80, Nat.add_comm 0xC0, Nat.add_comm 0xE0, Nat.add_comm 0xF0]
  -- The standard keeps the low bits of the first octet, but a character has no others there.
  split_ifs with h1 h2 h3
  · rfl
  · rw [Nat.mod_eq_of_lt (show c.toNat / 64 < 32 by omega)]
  · rw [Nat.mod_eq_of_lt (show c.toNat / 4096 < 16 by omega)]
  · rw [Nat.mod_eq_of_lt (show c.toNat / 262144 < 8 by omega)]

/-- A text has the octets that the standard encoding gives it. -/
theorem encode_toList (s : String) : encode s.toList = s.toUTF8.data.toList := by
  have hchars : encode s.toList = s.toList.flatMap String.utf8EncodeChar :=
    congrArg s.toList.flatMap (funext encodeChar_eq_utf8EncodeChar)
  rw [hchars, String.toUTF8, ← String.utf8Encode_toList, List.utf8Encode,
    List.toList_data_toByteArray]

/-! ## Octets that are read -/

/-- An octet is its number. -/
theorem toUInt8_eq {n : Nat} {b : UInt8} (h : b.toNat = n) : n.toUInt8 = b := by
  rw [← h]
  exact UInt8.ofNat_toNat

/-- A number of the right size that is no surrogate belongs to a character. -/
theorem toNat_ofNat {n : Nat} (hn : n < 0xD800 ∨ 0xDFFF < n ∧ n < 0x110000) :
    (Char.ofNat n).toNat = n := by
  have hval : (UInt32.ofNat n).toNat = n :=
    UInt32.toNat_ofNat_of_lt' (Nat.lt_trans (by omega : n < 0x110000) (by decide))
  have hvalid : (UInt32.ofNat n).isValidChar := by
    rw [UInt32.isValidChar, hval]
    exact hn
  have hchar : (⟨UInt32.ofNat n, hvalid⟩ : Char).toNat = n := hval
  rw [← hchar, Char.ofNat_toNat]

/-- An octet within the limits of a sequence continues it. -/
theorem Utf8Pending.exists_continuation {p : Utf8Pending} {b : UInt8}
    (hlow : 0x80 ≤ p.low.toNat) (hb : (p.low ≤ b && b ≤ p.high) = true) :
    ∃ bits, b = continuation bits ∧ p.Admits bits ∧ b.toNat - 0x80 = bits := by
  simp only [Bool.and_eq_true, decide_eq_true_eq, UInt8.le_iff_toNat_le] at hb
  refine ⟨b.toNat - 0x80, (toUInt8_eq ?_).symm, ⟨?_, ?_⟩, rfl⟩
  · omega
  · omega
  · omega

/-- A mapped result that succeeds comes from one that does. -/
theorem exists_of_map_eq_ok {ε α β : Type} {f : α → β} {x : Except ε α} {b : β}
    (h : f <$> x = .ok b) : ∃ a, x = .ok a ∧ f a = b := by
  cases x with
  | error error => cases h
  | ok a => exact ⟨a, rfl, Except.ok.inj h⟩

/-- A sequence under way that is read to its end goes on with the octets that are due. -/
theorem exists_of_decodeFrom_pending {offset due : Nat} {p : Utf8Pending} {octets : List UInt8}
    {s : List Char} (hdue : p.due = due + 1) (hlow : 0x80 ≤ p.low.toNat)
    (hread : decodeFrom offset (some p) octets = .ok s) :
    ∃ bits later rest t next, octets = (bits :: later).map continuation ++ rest ∧
      later.length = due ∧ p.Admits bits ∧ (∀ b ∈ later, b < 64) ∧
      s = Char.ofNat ((bits :: later).foldl (fun value b => value * 64 + b) p.value) :: t ∧
      decodeFrom next none rest = .ok t := by
  induction due generalizing offset p octets s with
  | zero =>
    cases octets with
    | nil => simp [decodeFrom] at hread
    | cons b rest =>
      rw [decodeFrom] at hread
      split at hread
      · next hb =>
        obtain ⟨bits, rfl, hbits, hvalue⟩ := Utf8Pending.exists_continuation hlow hb
        rw [if_pos (by omega), hvalue] at hread
        obtain ⟨t, ht, rfl⟩ := exists_of_map_eq_ok hread
        exact ⟨bits, [], rest, t, _, rfl, rfl, hbits, by simp, rfl, ht⟩
      · simp at hread
  | succ due ih =>
    cases octets with
    | nil => simp [decodeFrom] at hread
    | cons b rest =>
      rw [decodeFrom] at hread
      split at hread
      · next hb =>
        obtain ⟨bits, rfl, hbits, hvalue⟩ := Utf8Pending.exists_continuation hlow hb
        rw [if_neg (by omega), hvalue] at hread
        obtain ⟨next, later, rest, t, place, rfl, hlength, hnext, hlater, hs, ht⟩ :=
          ih (by simp [hdue]) (Nat.le_refl _) hread
        refine ⟨bits, next :: later, rest, t, place, rfl, by simp [hlength], hbits, ?_, hs, ht⟩
        refine List.forall_mem_cons.mpr ⟨?_, hlater⟩
        have hhigh : 0x80 + next ≤ 0xBF := hnext.2
        omega
      · simp at hread

/-- What an octet that begins a sequence says about it: how many octets are due, and which bits may
come next. -/
theorem begin?_cases {b : UInt8} {p : Utf8Pending} {bits : Nat}
    (hp : Utf8Pending.begin? b = some p) (hbits : p.Admits bits) :
    bits < 64 ∧
      (p.due = 1 ∧ b.toNat = 0xC0 + p.value ∧ 2 ≤ p.value ∧ p.value < 32 ∨
        p.due = 2 ∧ b.toNat = 0xE0 + p.value ∧ p.value < 16 ∧ (p.value = 0 → 32 ≤ bits) ∧
          (p.value = 13 → bits < 32) ∨
        p.due = 3 ∧ b.toNat = 0xF0 + p.value ∧ p.value < 5 ∧ (p.value = 0 → 16 ≤ bits) ∧
          (p.value = 4 → bits < 16)) := by
  simp only [Utf8Pending.begin?, Bool.and_eq_true, decide_eq_true_eq, beq_iff_eq] at hp
  split_ifs at hp <;> cases hp <;> simp [Utf8Pending.Admits] at hbits ⊢ <;> omega

/-- A character that has begun is not complete, and goes on with further octets. -/
theorem low_of_begin? {b : UInt8} {p : Utf8Pending} (hp : Utf8Pending.begin? b = some p) :
    0x80 ≤ p.low.toNat ∧ 0 < p.due := by
  simp only [Utf8Pending.begin?, Bool.and_eq_true, decide_eq_true_eq, beq_iff_eq] at hp
  split_ifs at hp <;> cases hp <;> simp

/-- A character of two octets is encoded with its bits. -/
theorem encodeChar_two {lead bits : Nat} (hlow : 2 ≤ lead) (hhigh : lead < 32)
    (hbits : bits < 64) :
    encodeChar (Char.ofNat (lead * 64 + bits)) = [(0xC0 + lead).toUInt8, continuation bits] := by
  have hn := @toNat_ofNat (lead * 64 + bits) (by omega)
  have hlead : (lead * 64 + bits) / 64 = lead := by omega
  have hlast : (lead * 64 + bits) % 64 = bits := by omega
  simp only [encodeChar, hn, hlead, hlast, continuation]
  rw [if_neg (by omega), if_pos (by omega)]

/-- A character of three octets is encoded with its bits. -/
theorem encodeChar_three {lead bits last : Nat} (hlead : lead < 16) (hbits : bits < 64)
    (hlong : lead = 0 → 32 ≤ bits) (hscalar : lead = 13 → bits < 32) (hlast : last < 64) :
    encodeChar (Char.ofNat ((lead * 64 + bits) * 64 + last)) =
      [(0xE0 + lead).toUInt8, continuation bits, continuation last] := by
  have hn := @toNat_ofNat ((lead * 64 + bits) * 64 + last) (by omega)
  have hfirst : ((lead * 64 + bits) * 64 + last) / 4096 = lead := by omega
  have hsecond : ((lead * 64 + bits) * 64 + last) / 64 % 64 = bits := by omega
  have hthird : ((lead * 64 + bits) * 64 + last) % 64 = last := by omega
  simp only [encodeChar, hn, hfirst, hsecond, hthird, continuation]
  rw [if_neg (by omega), if_neg (by omega), if_pos (by omega)]

/-- A character of four octets is encoded with its bits. -/
theorem encodeChar_four {lead bits next last : Nat} (hlead : lead < 5) (hbits : bits < 64)
    (hlong : lead = 0 → 16 ≤ bits) (hend : lead = 4 → bits < 16) (hnext : next < 64)
    (hlast : last < 64) :
    encodeChar (Char.ofNat (((lead * 64 + bits) * 64 + next) * 64 + last)) =
      [(0xF0 + lead).toUInt8, continuation bits, continuation next, continuation last] := by
  have hn := @toNat_ofNat (((lead * 64 + bits) * 64 + next) * 64 + last) (by omega)
  have hfirst : (((lead * 64 + bits) * 64 + next) * 64 + last) / 262144 = lead := by omega
  have hsecond : (((lead * 64 + bits) * 64 + next) * 64 + last) / 4096 % 64 = bits := by omega
  have hthird : (((lead * 64 + bits) * 64 + next) * 64 + last) / 64 % 64 = next := by omega
  have hfourth : (((lead * 64 + bits) * 64 + next) * 64 + last) % 64 = last := by omega
  simp only [encodeChar, hn, hfirst, hsecond, hthird, hfourth, continuation]
  rw [if_neg (by omega), if_neg (by omega), if_neg (by omega)]

/-- A sequence that is read has the octets of the character that it gives. -/
theorem encodeChar_of_begin? {b : UInt8} {p : Utf8Pending} {bits : Nat} {later : List Nat}
    (hp : Utf8Pending.begin? b = some p) (hbits : p.Admits bits)
    (hdue : p.due = later.length + 1) (hlater : ∀ b ∈ later, b < 64) :
    encodeChar (Char.ofNat ((bits :: later).foldl (fun value b => value * 64 + b) p.value)) =
      b :: (bits :: later).map continuation := by
  obtain ⟨hsmall, ⟨hone, hb, hlow, hhigh⟩ | ⟨htwo, hb, hhigh, hlong, hscalar⟩ |
    ⟨hthree, hb, hhigh, hlong, hend⟩⟩ := begin?_cases hp hbits
  · obtain rfl : later = [] := List.eq_nil_of_length_eq_zero (by omega)
    exact (encodeChar_two hlow hhigh hsmall).trans (by rw [toUInt8_eq hb]; rfl)
  · obtain ⟨last, rfl⟩ : ∃ last, later = [last] := List.length_eq_one_iff.mp (by omega)
    have hlast := hlater last List.mem_cons_self
    exact (encodeChar_three hhigh hsmall hlong hscalar hlast).trans (by rw [toUInt8_eq hb]; rfl)
  · obtain ⟨next, last, rfl⟩ : ∃ next last, later = [next, last] :=
      List.length_eq_two.mp (by omega)
    obtain ⟨hnext, hrest⟩ := List.forall_mem_cons.mp hlater
    have hlast := hrest last List.mem_cons_self
    exact (encodeChar_four hhigh hsmall hlong hend hnext hlast).trans
      (by rw [toUInt8_eq hb]; rfl)

/-- Octets that are read as a text are the octets of that text. -/
theorem encode_of_decodeFrom {offset : Nat} {octets : List UInt8} {s : List Char}
    (hread : decodeFrom offset none octets = .ok s) : encode s = octets := by
  induction hlength : octets.length using Nat.strongRecOn generalizing offset octets s with
  | ind length ih =>
    cases octets with
    | nil =>
      rw [decodeFrom] at hread
      obtain rfl := Except.ok.inj hread
      rfl
    | cons b rest =>
      have hcons (c : Char) (t : List Char) : encode (c :: t) = encodeChar c ++ encode t :=
        List.flatMap_cons
      by_cases hb : b.toNat < 0x80
      · rw [decodeFrom_single hb] at hread
        obtain ⟨t, ht, rfl⟩ := exists_of_map_eq_ok hread
        have hn := @toNat_ofNat b.toNat (by omega)
        rw [hcons, ih rest.length (by simp [← hlength]) ht rfl, encodeChar, hn, if_pos hb,
          toUInt8_eq rfl]
        rfl
      · cases hp : Utf8Pending.begin? b with
        | none => simp [decodeFrom, hb, hp] at hread
        | some p =>
          obtain ⟨hlow, hpositive⟩ := low_of_begin? hp
          obtain ⟨due, hdue⟩ : ∃ due, p.due = due + 1 := ⟨p.due - 1, by omega⟩
          rw [decodeFrom_begin hb hp] at hread
          obtain ⟨bits, later, rest, t, next, rfl, hlater, hbits, hsmall, rfl, ht⟩ :=
            exists_of_decodeFrom_pending hdue hlow hread
          rw [hcons, encodeChar_of_begin? hp hbits (by omega) hsmall,
            ih rest.length (by simp [← hlength]; omega) ht rfl]
          rfl

/-- Octets are decoded to the one text that they encode. -/
theorem decode_eq_ok_iff {octets : List UInt8} {s : List Char} :
    decode octets = .ok s ↔ octets = encode s := by
  constructor
  · exact fun hread => (encode_of_decodeFrom hread).symm
  · rintro rfl
    exact decode_encode s

/-- The octets of no text are refused, and all others are read. -/
theorem exists_decode_eq_error_iff {octets : List UInt8} :
    (∃ error, decode octets = .error error) ↔
      ∀ text : String, octets ≠ text.toUTF8.data.toList := by
  constructor
  · rintro ⟨error, herror⟩ text rfl
    rw [← encode_toList, decode_encode] at herror
    cases herror
  · intro hnone
    cases hread : decode octets with
    | error error => exact ⟨error, rfl⟩
    | ok s =>
      refine absurd ?_ (hnone (String.ofList s))
      rw [← encode_toList, String.toList_ofList]
      exact decode_eq_ok_iff.mp hread

end NearMiss.Text
