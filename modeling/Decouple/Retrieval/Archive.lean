import Decouple.Retrieval.Basic
import Decouple.Settings
import Decouple.Zip.Member

/-!
# Projects in archives

The members of an archive become the files of a project.  Names that lead out of the project, that
are absolute or that name a drive are left out; a folder that all members share is taken off; and
files are excluded by folder and by name.  What decides about a member is its name and the other
names alone, so the choice is made before any content is read.
-/

namespace Decouple

namespace Extraction

/-! ## Names -/

/-- The parts of a name between its slashes; a backslash is a slash. -/
def parts (name : Text) : List Text :=
  (Text.splitOn '/' (Text.replaceCodePoint '\\' '/' name)).filter fun p => p ≠ [] && p ≠ "."

/-- Whether a name names a folder. -/
def isFolder (name : Text) : Bool := Text.endsWith name "/"

/-- Whether a name is absolute. -/
def isAbsolute (name : Text) : Bool := Text.startsWith (Text.replaceCodePoint '\\' '/' name) "/"

/-- Whether the parts of a name are a place inside a project. -/
def areInside (ps : List Text) : Bool :=
  !ps.isEmpty && !ps.contains ".." && !(ps.headD []).contains ':'

/-- The place that a name means, if it is the name of a file inside a project. -/
def place? (name : Text) : Option (List Text) :=
  if isFolder name || isAbsolute name || !areInside (parts name) then none else some (parts name)

/-! ## The shared folder -/

/-- Whether all places lie inside one folder. -/
def shareFolder (places : List (List Text)) : Bool :=
  match places with
  | [] => false
  | first :: _ => places.all fun p => p.headD [] = first.headD [] && 1 < p.length

/-- Places without the folder that they share, if they share one. -/
def withoutShared {α : Type} (members : List (List Text × α)) : List (List Text × α) :=
  if shareFolder (members.map (·.1)) then members.map fun (p, a) => (p.tail, a) else members

/-! ## Exclusion -/

/-- Whether a folder is excluded. -/
def excludesFolder (s : Settings) (folder : Text) : Bool :=
  s.retrieval.excludedFolders.contains folder || folder = "__MACOSX"

/-- Whether a place is excluded. -/
def excludes (s : Settings) (p : List Text) : Bool :=
  p.dropLast.any (excludesFolder s) || s.retrieval.excludedFiles.contains (p.getLastD [])

/-! ## Members -/

/-- The members of an archive that are files of the project, each with its path. -/
def placed {α : Type} (s : Settings) (members : List (Text × α)) : List (Text × α) :=
  let inside := members.filterMap fun (name, a) => (place? name).map fun p => (p, a)
  ((withoutShared inside).filter fun (p, _) => !excludes s p).map fun (p, a) => (Text.join "/" p, a)

/-- The project that members with their contents are. -/
def ofMembers (s : Settings) (members : List (Text × Bytes)) : Snapshot :=
  Snapshot.ofFiles ((placed s members).map fun (path, bytes) => ⟨path, Content.ofBytes bytes⟩)

/-- Read the file of a member. -/
def readFile (archive : Bytes) (path : Text) (e : Zip.Entry) : Except Zip.ArchiveError File :=
  (Zip.content archive e).map fun bytes => ⟨path, Content.ofBytes bytes⟩

/-- Read the project in an archive. -/
def read (s : Settings) (archive : Bytes) : Except Zip.ArchiveError Snapshot := do
  let entries ← Zip.directory archive
  let files ← (placed s (entries.map fun e => (e.name, e))).mapM fun (path, e) =>
    readFile archive path e
  .ok (Snapshot.ofFiles files)

/-- Retrieve the project in an archive; messages call the archive by `name`. -/
def retrieve (s : Settings) (archive : Bytes) (name : Text) : Except RetrievalError Retrieved :=
  match read s archive with
  | .ok snapshot => .ok { snapshot, label := name }
  | .error e => .error (RetrievalError.ofArchive name e)

end Extraction

end Decouple
