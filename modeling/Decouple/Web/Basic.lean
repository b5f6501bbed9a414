import Decouple.Analysis.Json
import Decouple.Environment
import Decouple.Run.Basic
import Decouple.Run.Breakdown
import Decouple.Text.Blank
import Decouple.Text.Case
import Decouple.Web.Page

/-!
# The web service

One function for each thing that can be requested: analyzing an upload, liberating an upload or a
repository, downloading an archive, and listing and deleting runs.
-/

namespace Decouple

/-!
## Answers of the web service

What the service answers: the bodies of requests that went well, and refusals with their status.
-/

namespace Web

/-- Why a request is refused. -/
inductive Refusal where
  | noUpload
  | noArchive
  | emptyUpload
  | noRepository
  | unknownArchive
  | unknownRun
  | failure (f : Failure)
  deriving DecidableEq

namespace Refusal

/-- The status of a refusal: failures of retrieval and declined runs are up to the client. -/
def status : Refusal → Nat
  | noUpload | noArchive | emptyUpload | noRepository => 400
  | unknownArchive | unknownRun => 404
  | failure f => if f.kind = .retrieval ∨ f.kind = .abandoned then 400 else 500

/-- A refusal in words. -/
def detail : Refusal → Text
  | noUpload => "No file uploaded"
  | noArchive => "Upload must be a .zip archive"
  | emptyUpload => "Uploaded file is empty"
  | noRepository => "No repository provided"
  | unknownArchive => "Archive not found"
  | unknownRun => "Run not found"
  | failure f => f.report

end Refusal

/-- Why a request has no body for an answer. -/
inductive Denial where
  | refused (r : Refusal)
  | breakdown (b : Breakdown)

/-- What went wrong, as an answer. -/
def Denial.ofTrouble : Trouble → Denial
  | .failure f => refused (.failure f)
  | .breakdown b => breakdown b

/-- An analysis of an upload. -/
structure AnalysisAnswer where
  analysis : Analysis
  filesTotal : Nat
  skipped : List Text

namespace AnalysisAnswer

/-- What an answer tells beside the analysis. -/
def counts (a : AnalysisAnswer) : List (Text × Json) := [
  ("summary", a.analysis.summary), ("files_total", .int a.filesTotal),
  ("skipped_files", .ofTexts a.skipped)]

/-- The body of an analysis. -/
def toJson (a : AnalysisAnswer) : Json := .object (a.analysis.members ++ a.counts)

end AnalysisAnswer

/-- Where an archive is downloaded. -/
def downloadAddress (ref : Text) : Text := "/api/download/" ++ ref

/-- The body of a run. -/
def runBody (r : RunResult) : Json := .object [
  ("run_id", .ofText? (r.record.map (·.runId))), ("project_name", .string r.projectName),
  ("archive_ref", .string r.archiveRef), ("download_url", .string (downloadAddress r.archiveRef)),
  ("score_before", .int r.analysis.score), ("score_after", .int r.scoreAfter),
  ("stats", r.stats.toJson), ("removed_dependencies", .ofTexts r.removedDependencies),
  ("skipped_files", .ofTexts r.skipped)]

/-- A file to be saved. -/
structure Download where
  mediaType : Text
  disposition : Text
  bytes : Bytes
  deriving DecidableEq

/-- An archive to be saved under its reference. -/
def Download.ofArchive (ref : Text) (archive : Bytes) : Download where
  mediaType := "application/zip"
  disposition := "attachment; filename=\"" ++ ref ++ ".zip\""
  bytes := archive

/-! ## Uploads -/

/-- An uploaded file. -/
structure Upload where
  filename : Text
  data : Bytes

/-- The bytes of an uploaded archive. -/
def Upload.archive (u : Upload) : Except Refusal Bytes :=
  if u.filename.isEmpty then .error .noUpload
  else if !Text.endsWith (Text.lowerCase u.filename) ".zip" then .error .noArchive
  else if u.data.isEmpty then .error .emptyUpload
  else .ok u.data

/-- Analyze the project in an archive. -/
def analyzeArchive (k : Desk) (s : Session) (archive : Bytes) : Except Denial AnalysisAnswer :=
  match (Retrieval.ofSource k s (.bytes archive) none).result with
  | .error e => .error (.ofTrouble (.ofRun (.retrieval e)))
  | .ok r =>
    match Analysis.ofSnapshot k.settings r.snapshot with
    | .error e => .error (.ofTrouble (.ofRun (.analysis e)))
    | .ok a => .ok ⟨a, r.snapshot.size, r.skipped⟩

/-- Analyze an uploaded project. -/
def analyze (k : Desk) (s : Session) (u : Upload) : Except Denial AnalysisAnswer := do
  let archive ← u.archive.mapError .refused
  analyzeArchive k s archive

/-! ## Runs -/

/-- What is asked of a run. -/
structure RunRequest where
  projectName : Option Text := none
  owner : Text := "local"
  useAssistant : Bool := true
  reference : Option Text := none

/-- The options of a run; nobody is asked whether to go on. -/
def RunRequest.options (q : RunRequest) : RunOptions where
  projectName := q.projectName
  owner := q.owner
  useAssistant := q.useAssistant
  reference := q.reference

/-- Run on a source. -/
def run (k : Desk) (s : Session) (source : Source) (o : RunOptions) :
    Except Denial RunResult × Session :=
  let run := Run.perform k s source o
  (run.result.mapError fun e => .ofTrouble (.ofRun e), run.session)

/-- The name of an uploaded project: the name asked for, or that of the file. -/
def uploadName (q : RunRequest) (u : Upload) : Text :=
  (q.projectName.filter (!·.isEmpty)).getD (FilePath.stem u.filename)

/-- Liberate an uploaded project. -/
def liberate (k : Desk) (s : Session) (u : Upload) (q : RunRequest) :
    Except Denial RunResult × Session :=
  match u.archive with
  | .error r => (.error (.refused r), s)
  | .ok archive =>
    run k s (.bytes archive)
      { q.options with projectName := some (uploadName q u), reference := none }

/-- Liberate a repository. -/
def liberateRepository (k : Desk) (s : Session) (repository : Text) (q : RunRequest) :
    Except Denial RunResult × Session :=
  if Text.isBlank repository then (.error (.refused .noRepository), s)
  else run k s (.named repository) q.options

/-! ## Archives and records -/

/-- Download an archive. -/
def download (k : Desk) (s : Session) (ref : Text) : Except Denial Download :=
  match k.archive? s ref with
  | some archive => .ok (.ofArchive ref archive)
  | none => .error (.refused .unknownArchive)

/-- List the runs of an owner. -/
def history (k : Desk) (s : Session) (owner : Text) : Except Denial (List Record) :=
  (Ledger.list s.disk k.ledger owner).mapError fun e => .ofTrouble (.ofLedger e)

/-- Delete a run of an owner. -/
def delete (k : Desk) (s : Session) (run owner : Text) : Except Denial Unit × Session :=
  match Ledger.delete s.disk k.ledger run owner with
  | .error e => (.error (.ofTrouble (.ofLedger e)), s)
  | .ok (false, disk) => (.error (.refused .unknownRun), { s with disk })
  | .ok (true, disk) => (.ok (), { s with disk })

/-! ## Settings -/

/-- The settings of the service. -/
def settings (env : Environment) : Except Denial Settings :=
  (Environment.settings env).mapError fun f => .refused (.failure f)

end Web

end Decouple
