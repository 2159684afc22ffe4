/-!
# UTF-8

Text as octets. Reading is strict: surrogates, overlong forms and numbers past the last code point
are refused, and a refusal names the longest start of the sequence that could still have been right,
where it stands and what is wrong with it.
-/

namespace NearMiss.Text

/-- What is wrong with an octet sequence. -/
inductive Utf8Flaw where
  /-- The octet begins no sequence. -/
  | startByte
  /-- The octet after the given ones continues no sequence that they begin. -/
  | continuationByte
  /-- The octets end inside a sequence. -/
  | truncated
  deriving DecidableEq, Repr

/-- The place where octets stop being text: the offset of the sequence, its octets that were
acceptable, and the flaw. -/
structure Utf8Error where
  /-- Offset of the first octet of the sequence. -/
  position : Nat
  /-- The octets of the sequence that were read before the flaw showed. -/
  octets : List UInt8
  /-- What is wrong. -/
  flaw : Utf8Flaw
  deriving DecidableEq, Repr

/-- The two lower-case hexadecimal digits of an octet. -/
def hexOctet (b : UInt8) : String :=
  let digit (n : Nat) : Char := (Nat.toDigits 16 n).headD '0'
  String.ofList [digit (b.toNat / 16), digit (b.toNat % 16)]

/-- The wording of a flaw. -/
def Utf8Flaw.message : Utf8Flaw → String
  | .startByte => "invalid start byte"
  | .continuationByte => "invalid continuation byte"
  | .truncated => "unexpected end of data"

/-- The wording of a refusal; a single octet is shown, several are given by their range. -/
def Utf8Error.message (e : Utf8Error) : String :=
  let place :=
    match e.octets with
    | [b] => s!"byte 0x{hexOctet b} in position {e.position}"
    | octets => s!"bytes in position {e.position}-{e.position + octets.length - 1}"
  s!"'utf-8' codec can't decode {place}: {e.flaw.message}"

/-- A sequence under way: how many octets are still due, the limits of the next one, the number
read so far and the octets that gave it. -/
structure Utf8Pending where
  /-- Octets that the sequence still needs, this one included. -/
  due : Nat
  /-- The least acceptable next octet. -/
  low : UInt8
  /-- The greatest acceptable next octet. -/
  high : UInt8
  /-- The payload bits read so far. -/
  value : Nat
  /-- The octets read so far. -/
  octets : List UInt8

/-- The sequence that an octet of at least `80` begins. The limits on the second octet exclude
overlong forms, surrogates and numbers past `10FFFF`. -/
def Utf8Pending.begin? (b : UInt8) : Option Utf8Pending :=
  let n := b.toNat
  if 0xC2 ≤ n && n ≤ 0xDF then some ⟨1, 0x80, 0xBF, n - 0xC0, [b]⟩
  else if n == 0xE0 then some ⟨2, 0xA0, 0xBF, 0, [b]⟩
  else if n == 0xED then some ⟨2, 0x80, 0x9F, 0xD, [b]⟩
  else if 0xE1 ≤ n && n ≤ 0xEF then some ⟨2, 0x80, 0xBF, n - 0xE0, [b]⟩
  else if n == 0xF0 then some ⟨3, 0x90, 0xBF, 0, [b]⟩
  else if n == 0xF4 then some ⟨3, 0x80, 0x8F, 4, [b]⟩
  else if 0xF1 ≤ n && n ≤ 0xF3 then some ⟨3, 0x80, 0xBF, n - 0xF0, [b]⟩
  else none

/-- Reads octets from the given offset on, with the sequence that is under way, if any. -/
def decodeFrom (offset : Nat) : Option Utf8Pending → List UInt8 → Except Utf8Error (List Char)
  | none, [] => .ok []
  | some p, [] => .error ⟨offset - p.octets.length, p.octets, .truncated⟩
  | none, b :: rest =>
    if b.toNat < 0x80 then
      (Char.ofNat b.toNat :: ·) <$> decodeFrom (offset + 1) none rest
    else
      match Utf8Pending.begin? b with
      | none => .error ⟨offset, [b], .startByte⟩
      | some p => decodeFrom (offset + 1) (some p) rest
  | some p, b :: rest =>
    if p.low ≤ b && b ≤ p.high then
      let value := p.value * 64 + (b.toNat - 0x80)
      if p.due ≤ 1 then
        (Char.ofNat value :: ·) <$> decodeFrom (offset + 1) none rest
      else
        decodeFrom (offset + 1) (some ⟨p.due - 1, 0x80, 0xBF, value, p.octets ++ [b]⟩) rest
    else .error ⟨offset - p.octets.length, p.octets, .continuationByte⟩

/-- The text that octets spell. -/
def decode (octets : List UInt8) : Except Utf8Error (List Char) :=
  decodeFrom 0 none octets

/-- The octets of one character. -/
def encodeChar (c : Char) : List UInt8 :=
  let n := c.toNat
  if n < 0x80 then [n.toUInt8]
  else if n < 0x800 then [(0xC0 + n / 64).toUInt8, (0x80 + n % 64).toUInt8]
  else if n < 0x10000 then
    [(0xE0 + n / 4096).toUInt8, (0x80 + n / 64 % 64).toUInt8, (0x80 + n % 64).toUInt8]
  else
    [(0xF0 + n / 262144).toUInt8, (0x80 + n / 4096 % 64).toUInt8, (0x80 + n / 64 % 64).toUInt8,
      (0x80 + n % 64).toUInt8]

/-- The octets of a text. -/
def encode (s : List Char) : List UInt8 :=
  s.flatMap encodeChar

end NearMiss.Text
