import Decouple.ProjectName
import Decouple.Progress
import Decouple.Retrieval.Archive
import Decouple.Run.Session

/-!
# Sources of projects

A project comes as the bytes of an archive, as the path of an archive file, or by a text that
names either such a file, by its ending, or a repository.
-/

namespace Decouple

/-- Where a project comes from. -/
inductive Source where
  | bytes (archive : Bytes)
  | file (path : Text)
  | named (text : Text)

namespace Source

/-- The path of the archive file that a source names. -/
def path? : Source → Option Text
  | bytes _ => none
  | file path => some path
  | named text => if ProjectName.namesArchive text then some text else none

/-- The name of a project from a source that has no other name. -/
def projectName : Source → Text
  | bytes _ => "project"
  | file path => ProjectName.ofPath path
  | named text => ProjectName.ofSource text

end Source

/-- What retrieving a project comes to. -/
structure Retrieval where
  result : Except RetrievalError Retrieved
  milestones : List Milestone := []
  /-- The addresses of the requests that were sent. -/
  requests : List Text := []
  sleeps : List Delay := []

namespace Retrieval

/-- Retrieve the project in an archive file. -/
def ofFile (s : Settings) (d : Disk) (path : Text) : Except RetrievalError Retrieved :=
  match FilePath.unwritable? (FilePath.normal path) with
  | some u => .error (.unwritablePath u)
  | none =>
    if path.any (·.val = 0) then .error .nullInPath
    else
      match d.read path with
      | .error e =>
        .error (.ofMessage ("Cannot read " ++ FilePath.normal path ++ ": " ++ e.message))
      | .ok bytes => Extraction.retrieve s bytes (FilePath.name path)

/-- Retrieve the project in a repository. -/
def ofRepository (k : Desk) (s : Session) (r : Repository) : Retrieval :=
  let fetched := Hosting.fetch (k.hostIn s) k.settings r
  { result := fetched.result
    milestones := ⟨0, "Listing " ++ r.label⟩ ::
      fetched.progress.map fun (done, total) => Progress.step 0 40 "Fetched" done total
    requests := fetched.requests
    sleeps := fetched.sleeps }

/-- Retrieve a project; the reference is for repositories. -/
def ofSource (k : Desk) (s : Session) (source : Source) (reference : Option Text) : Retrieval :=
  match source, source.path? with
  | .bytes archive, _ => { result := Extraction.retrieve k.settings archive "upload.zip" }
  | _, some path => { result := ofFile k.settings s.disk path }
  | .file path, none => { result := ofFile k.settings s.disk path }
  | .named text, none =>
    match Repository.ofSource text reference with
    | .error f => { result := .error (.failure f) }
    | .ok r => ofRepository k s r

end Retrieval

end Decouple
