import NearMiss.Path
import NearMiss.Settings.Template

/-!
# Settings

What can be set: where the corpus is, what is checked, and where and how sources are fetched.
-/

namespace NearMiss

/-- The settings of the program. -/
structure Settings where
  /-- The corpus file; the built-in corpus is used if there is none. -/
  corpusPath : Option Path := none
  /-- The keyword that begins a declaration. -/
  declarationKeyword : String := "func"
  /-- The least number of parameters of a method that is compared or harvested. -/
  minParams : Nat := 1
  /-- The release whose interfaces are harvested. -/
  goVersion : String := "HEAD"
  /-- The address of a tagged release, with a field for its version. -/
  archiveUrlTemplate : String :=
    "https://github.com/golang/go/archive/refs/tags/go\x7bversion\x7d.tar.gz"
  /-- The address of the newest state of the sources. -/
  headArchiveUrl : String := "https://github.com/golang/go/archive/refs/heads/master.tar.gz"
  /-- How many seconds a request may take. -/
  requestTimeout : Nat := 60
  /-- The names of directories that are not harvested. -/
  excludedDirs : List String := ["testdata", "cmd", "vendor", "internal", "test"]
  deriving DecidableEq, Repr, Inhabited

namespace Settings

/-- The version that stands for the newest state of the sources. -/
def headVersion : String := "HEAD"

/-- The version that is meant: the one asked for, or the one that is set if none or an empty one is
asked for. -/
def version (settings : Settings) (asked : Option String) : String :=
  match asked with
  | some version => if version = "" then settings.goVersion else version
  | none => settings.goVersion

/-- The address of the sources of a release. -/
def archiveUrl (settings : Settings) (asked : Option String) : Except TemplateError String :=
  let version := settings.version asked
  if version = headVersion then .ok settings.headArchiveUrl
  else Template.render settings.archiveUrlTemplate version

end Settings

end NearMiss
