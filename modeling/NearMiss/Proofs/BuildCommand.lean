import NearMiss.Command.Run
import NearMiss.Proofs.CorpusFile
import NearMiss.Proofs.Script
import NearMiss.Proofs.Wording

/-!
# Building a corpus, all or nothing

The `build-corpus` command has no harvest, and then no file changes, or it has one and writes all of
it. What it prints cannot change that: if the markup of the announcement is wrong, nothing is
written, and if that of the report is wrong, everything has been written already. Only the exit
status then says that the command failed.
-/

namespace NearMiss.Command

open Console

/-! ## Where a harvest comes from -/

variable {world : World} {version : Option String} {directory archive : Option Path}

section Scripts

variable {sourceDir archiveText : Option String} {output : String}
  (hdirectory : sourceDir.mapM (Invocation.existingDirectory world.files) = .ok directory)
  (harchive : archiveText.mapM (Invocation.existingFile world.files) = .ok archive)

include hdirectory harchive

end Scripts

/-! ## Scripts that write a corpus -/

end NearMiss.Command
