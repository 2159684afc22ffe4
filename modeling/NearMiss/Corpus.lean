import NearMiss.FileTree.Basic
import NearMiss.Json.Parser
import NearMiss.Json.Printer
import NearMiss.Schema.Record
import NearMiss.Text.Lines
import NearMiss.Text.Utf8

/-!
# The corpus

The known interface methods, kept as a JSON array of records. Reading a corpus either gives all of
its records or says what is wrong: the place where the text is no JSON, or every fault of every
record.
-/

namespace NearMiss

/-- A list of interface methods. -/
abbrev Corpus := List InterfaceMethod

namespace Corpus

open Schema

/-- Why a corpus text cannot be read. -/
inductive ReadError where
  /-- The text is no JSON: the line, the column and the flaw there. -/
  | malformed (line column : Nat) (flaw : Json.Flaw)
  /-- Records are not as they should be. -/
  | invalid (faults : List Fault)
  /-- A whole number in the text has too many digits. -/
  | tooManyDigits (count : Nat)
  deriving DecidableEq, Repr

/-- The records of a JSON value. -/
def ofJson : Json → Checked Corpus :=
  list InterfaceMethod.ofJson

/-- Reads a corpus text. -/
def ofText (text : String) : Except ReadError Corpus :=
  match Json.parse text with
  | .error (.malformed flaw offset) =>
    .error (.malformed (Json.lineOf text.toList offset) (Json.columnOf text.toList offset) flaw)
  | .error (.tooManyDigits count) => .error (.tooManyDigits count)
  | .ok value =>
    match ofJson value with
    | .ok corpus => .ok corpus
    | .refused faults => .error (.invalid faults)

/-- The JSON value of a corpus. -/
def toJson (corpus : Corpus) : Json :=
  .arr (corpus.map (InterfaceMethod.toJson .camel))

/-- The text of a corpus. -/
def toText (corpus : Corpus) : String :=
  corpus.toJson.pretty

/-- Why a corpus file cannot be loaded. -/
inductive LoadError where
  /-- The file cannot be read. -/
  | unreadable (error : FileError)
  /-- The file is no UTF-8 text. -/
  | undecodable (error : Text.Utf8Error)
  /-- The text of the file is no corpus. -/
  | unacceptable (error : ReadError)
  deriving DecidableEq, Repr

/-- The corpus in the octets of a file. Line ends are normalised before the text is read. -/
def ofOctets (octets : List UInt8) : Except LoadError Corpus :=
  match Text.decode octets with
  | .error error => .error (.undecodable error)
  | .ok chars =>
    match ofText (String.ofList (Text.normalizeNewlines chars)) with
    | .error error => .error (.unacceptable error)
    | .ok corpus => .ok corpus

/-- The corpus in the file at a path. -/
def load (tree : FileTree) (path : Path) : Except LoadError Corpus :=
  match tree.read path with
  | .error error => .error (.unreadable error)
  | .ok octets => ofOctets octets

/-- The octets of a corpus file. -/
def toOctets (corpus : Corpus) : List UInt8 :=
  Text.encode corpus.toText.toList

/-- The tree with a corpus in the file at a path, and with the directories that lead there. -/
def store (tree : FileTree) (path : Path) (corpus : Corpus) : Except FileError FileTree := do
  let tree ← tree.makeDirectories path.parent
  tree.write path corpus.toOctets

/-- A reported failure in two parts: what failed, and why. -/
structure Report where
  /-- What failed. -/
  summary : String
  /-- Why it failed. -/
  details : String
  deriving DecidableEq, Repr

/-- The two parts as one text. -/
def Report.message (r : Report) : String :=
  r.summary ++ ": " ++ r.details

/-- The report of a text that is no corpus. A number with too many digits has none: it is not a
fault of the format. -/
def ReadError.report? : ReadError → Option Report
  | .malformed line column flaw =>
    some ⟨"Invalid JSON format", s!"Line {line}, column {column}: {flaw.message}"⟩
  | .invalid faults => some ⟨"Corpus validation failed", describe faults⟩
  | .tooManyDigits _ => none

/-- The wording of a number with too many digits. -/
def digitLimitMessage (count : Nat) : String :=
  s!"Exceeds the limit ({Json.maxDigits} digits) for integer string conversion: value has " ++
    s!"{count} digits; use sys.set_int_max_str_digits() to increase the limit"

/-- The wording of the failure. -/
def ReadError.message : ReadError → String
  | .tooManyDigits count => digitLimitMessage count
  | error => (error.report?.map Report.message).getD ""

/-- The report of a file that holds no corpus. Octets that are no text have none, and neither has a
path that never reaches the file system. -/
def LoadError.report? : LoadError → Option Report
  | .unreadable error =>
    if error.cause.isFromSystem then
      some ⟨s!"Cannot read corpus file {error.path.text}", error.message⟩
    else none
  | .undecodable _ => none
  | .unacceptable error => error.report?

/-- The wording of the failure. -/
def LoadError.message : LoadError → String
  | .unreadable error => (LoadError.report? (.unreadable error)).elim error.message Report.message
  | .undecodable error => error.message
  | .unacceptable error => error.message

end Corpus

end NearMiss
