/-!
# Compressed archives

The members of a compressed archive are taken as they come out of it. How they are compressed is
left out, and so is everything else in the octets of an archive but its first few, the header.

Reading an archive can break off. A reader may refuse what it is given, for a reason that it states.
It may also fail in a way that it does not account for, because the octets end where it relied on
more. Archives are read from a file or from a stream, and the two readers do not always agree.
-/

namespace NearMiss

/-- A member of an archive. -/
structure Member where
  /-- The name under which it was packed. -/
  name : String
  /-- Whether it is a regular file, not a directory or a link. -/
  isRegular : Bool
  /-- What it holds. -/
  octets : List UInt8
  deriving DecidableEq, Repr, Inhabited

/-- How the reading of an archive breaks off. -/
inductive Damage where
  /-- The reader refuses the archive, for the given reason. -/
  | refused (reason : String)
  /-- The reader fails in a way that it does not account for. -/
  | unforeseen (reason : String)
  deriving DecidableEq, Repr

namespace Damage

/-- The octets do not begin like compressed data. -/
def notCompressed : Damage :=
  .refused "not a gzip file"

/-- There is nothing to read. -/
def nothingInside : Damage :=
  .refused "empty file"

/-- The octets of a file end too soon. -/
def cutOff : Damage :=
  .unforeseen "Compressed file ended before the end-of-stream marker was reached"

/-- The header of a stream ends too soon. -/
def cutHeader : Damage :=
  .unforeseen "ord() expected a character, but string of length 0 found"

/-- How many octets of a header follow its signature. -/
def headerRest : Nat := 8

/-- What the reader of files makes of octets that hold no compressed data, but perhaps the beginning
of a header or all of it. The octet behind the signature is the compression method. -/
def inFile : List UInt8 → Damage
  | [] => nothingInside
  | 0x1F :: 0x8B :: rest =>
    if headerRest ≤ rest.length && rest.head? != some 8 then notCompressed else cutOff
  | _ => notCompressed

/-- What the reader of streams makes of such octets. The octet behind the compression method has a
mark for a header that goes on. -/
def inStream : List UInt8 → Damage
  | [0x1F, 0x8B, 0x08] => cutHeader
  | 0x1F :: 0x8B :: 0x08 :: flags :: _ => if flags &&& 4 = 0 then nothingInside else cutHeader
  | 0x1F :: 0x8B :: _ => .refused "unsupported compression method"
  | _ => notCompressed

end Damage

end NearMiss
