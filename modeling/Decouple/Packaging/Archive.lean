import Decouple.Packaging.Artifact
import Decouple.Packaging.Report
import Decouple.ProjectName
import Decouple.Zip.Writer

/-!
# Packing a project

The archive of a project holds its files and the artifacts in one folder, in the order of their
paths; an artifact replaces a file of its path.  A text that cannot be encoded, or a name that
cannot, leaves no archive.
-/

namespace Decouple

namespace Packaging

/-- The files of an archive: those of the project, with the artifacts. -/
def files (s : Settings) (project : Snapshot) (report : Text) : Snapshot :=
  project.putAll ((Artifact.all s project report).map fun (path, t) => ⟨path, .text t⟩)

/-- The bytes of a content. -/
def encodeContent : Content → Except Utf8.Unwritable Bytes
  | .text t => Utf8.encode t
  | .bytes b => .ok b

/-- The member of a file inside a folder.  Its content is encoded before its name. -/
def member (folder : Text) (f : File) : Except Utf8.Unwritable Zip.Member := do
  let content ← encodeContent f.content
  let name := Zip.cutName (folder ++ "/" ++ f.path)
  let _ ← Utf8.encode name
  .ok { name, content }

/-- The members of the archive of a project. -/
def members (s : Settings) (project : Snapshot) (projectName report : Text) :
    Except Utf8.Unwritable (List Zip.Member) :=
  (files s project report).sorted.mapM (member (ProjectName.folder projectName))

/-- The failure of packing a text that cannot be encoded. -/
def unwritable (u : Utf8.Unwritable) : Failure where
  kind := .packaging
  message := "Cannot build archive: " ++ u.message

/-- The members of the archive of a project, or the failure to pack it. -/
def pack (s : Settings) (project : Snapshot) (projectName report : Text) :
    Except Failure (List Zip.Member) :=
  (members s project projectName report).mapError unwritable

end Packaging

end Decouple
