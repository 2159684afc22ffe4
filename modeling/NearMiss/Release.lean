import NearMiss.Harvest

/-!
# Releases

The sources of a release come as a compressed archive: a local file, or the answer to a request. An
archive that cannot be had or read to its end gives no harvest at all. Most failures are reported.
What the reader of an archive or the network does not account for itself is not.
-/

namespace NearMiss

/-- A request for an archive. -/
structure Request where
  /-- The address. -/
  url : String
  /-- How many seconds the answer may take. -/
  timeout : Nat
  deriving DecidableEq, Repr

/-- What comes of a request. -/
inductive Response where
  /-- There is no answer, for the given reason. -/
  | failed (reason : String)
  /-- There is no answer, and the network does not account for that. -/
  | aborted (reason : String)
  /-- There is an answer, with a status and its wording. If it breaks off, its body is damaged. -/
  | answered (status : Nat) (reason : String) (body : Content)
  deriving DecidableEq, Repr

/-- Why an archive gives no harvest. -/
inductive ReleaseError where
  /-- The file at a path cannot be read. -/
  | unreadable (path : Path) (error : FileError)
  /-- The file at a path is no compressed archive that can be read to its end. -/
  | damagedFile (path : Path) (damage : Damage)
  /-- The request got no answer. -/
  | noAnswer (url reason : String)
  /-- The request got no answer, for a reason that is not accounted for. -/
  | aborted (url reason : String)
  /-- The request was refused. -/
  | refused (url : String) (status : Nat) (reason : String)
  /-- The answer is no compressed archive that can be read to its end. -/
  | damagedAnswer (url : String) (damage : Damage)
  deriving DecidableEq, Repr

namespace ReleaseError

/-- The wording of the failure. -/
def message : ReleaseError → String
  | .unreadable path error => s!"Failed to read archive {path.text}: {error.message}"
  | .damagedFile path (.refused reason) => s!"Failed to read archive {path.text}: {reason}"
  | .damagedFile _ (.unforeseen reason) => reason
  | .noAnswer _ reason => s!"Failed to fetch the archive: {reason}"
  | .aborted _ reason => reason
  | .refused _ status reason => s!"Failed to fetch the archive: {status} {reason}"
  | .damagedAnswer _ (.refused reason) => s!"Failed to read the archive: {reason}"
  | .damagedAnswer _ (.unforeseen reason) => reason

/-- Whether the failure is reported. All others end a command as they come. -/
def isReported : ReleaseError → Bool
  | .damagedFile _ (.unforeseen _) => false
  | .aborted _ _ => false
  | .damagedAnswer _ (.unforeseen _) => false
  | _ => true

end ReleaseError

namespace Harvest

/-- The harvest of the archive file at a path. -/
def ofArchive (settings : Settings) (tree : FileTree) (path : Path)
    (find : Go.Interface.Finder := Go.Interface.ofSource) : Except ReleaseError Harvest :=
  match tree.content path with
  | .error error => .error (.unreadable path error)
  | .ok (.plain octets) => .error (.damagedFile path (.inFile octets))
  | .ok (.damaged damage) => .error (.damagedFile path damage)
  | .ok (.archive members) => .ok (ofMembers settings members find)

/-- Whether an answer with the status is a refusal. -/
def isRefusal (status : Nat) : Bool :=
  400 ≤ status && status < 600

/-- The harvest of the answer to a request. -/
def ofResponse (settings : Settings) (request : Request) (response : Response)
    (find : Go.Interface.Finder := Go.Interface.ofSource) : Except ReleaseError Harvest :=
  match response with
  | .failed reason => .error (.noAnswer request.url reason)
  | .aborted reason => .error (.aborted request.url reason)
  | .answered status reason body =>
    if isRefusal status then .error (.refused request.url status reason)
    else
      match body with
      | .plain octets => .error (.damagedAnswer request.url (.inStream octets))
      | .damaged damage => .error (.damagedAnswer request.url damage)
      | .archive members => .ok (ofMembers settings members find)

end Harvest

/-- The request for the sources of a release. -/
def Settings.request (settings : Settings) (asked : Option String) :
    Except TemplateError Request :=
  (settings.archiveUrl asked).map fun url => ⟨url, settings.requestTimeout⟩

end NearMiss
