import Decouple.Failure
import Decouple.Http.Fault
import Decouple.Snapshot
import Decouple.Zip.Entry

/-!
# Retrieved projects

A project is retrieved from an archive or from a repository.  Files of a repository that cannot be
obtained are named and left out; an archive is read as a whole or not at all.
-/

namespace Decouple

/-- A project as it was retrieved. -/
structure Retrieved where
  snapshot : Snapshot
  /-- The paths of files that could not be obtained. -/
  skipped : List Text := []
  /-- The number of batches in which files were asked for. -/
  batches : Nat := 0
  /-- How messages name the source. -/
  label : Text

/-- Why nothing could be retrieved. -/
inductive RetrievalError where
  | failure (f : Failure)
  /-- The name of an archive's member is not the text that it should be. -/
  | memberName (u : Utf8.Unreadable)
  /-- A member of an archive would start before the archive. -/
  | memberPosition (offset : Int)
  /-- A path holds a null code point. -/
  | nullInPath
  /-- A path holds a surrogate that none can have. -/
  | unwritablePath (u : Utf8.Unwritable)
  /-- A request for a repository comes to nothing. -/
  | request (f : RequestFault)
  deriving DecidableEq

namespace RetrievalError

/-- A failure of retrieval with a message. -/
def ofMessage (message : Text) : RetrievalError := .failure { kind := .retrieval, message }

/-- The error of an archive that has a name. -/
def ofArchive (name : Text) : Zip.ArchiveError → RetrievalError
  | .fault f => ofMessage ("Cannot read archive " ++ name ++ ": " ++ f.message)
  | .name u => .memberName u
  | .position offset => .memberPosition offset

/-- An error in words. -/
def message : RetrievalError → Text
  | failure f => f.report
  | memberName u => u.message
  | memberPosition offset => "negative seek value " ++ Text.ofInt offset
  | nullInPath => "embedded null byte"
  | unwritablePath u => u.message
  | request f => f.message

end RetrievalError

end Decouple
