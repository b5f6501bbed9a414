import Decouple.Packaging.Archive
import Decouple.Run.Source

/-!
# Completing a run

After the decision to go on, a project is cleaned, replacement modules are added, the result is
packed and stored, and the run is recorded.  A run whose record cannot be added is complete all
the same.
-/

namespace Decouple

/-- What a run is asked to do. -/
structure RunOptions where
  projectName : Option Text := none
  owner : Text := "local"
  useAssistant : Bool := true
  reference : Option Text := none
  /-- Who decides on the analysis whether to go on; nobody is asked without it. -/
  approve : Option (Analysis → Bool) := none

/-- Why a run ended early. -/
inductive RunError where
  | retrieval (e : RetrievalError)
  | analysis (e : AnalysisError)
  | declined
  | rewrite (f : RewriteFault)
  | packaging (f : Failure)
  /-- A score has more digits than are written. -/
  | longScore

namespace RunError

/-- The failure that an error is reported as, if it is one of those that are. -/
def failure? : RunError → Option Failure
  | retrieval (.failure f) => some f
  | retrieval _ => none
  | analysis e => e.failure?
  | declined => some { kind := .abandoned, message := "Run declined after analysis" }
  | rewrite _ | longScore => none
  | packaging f => some f

/-- An error in words. -/
def message (e : RunError) : Text :=
  match e with
  | retrieval e => e.message
  | analysis e => e.message
  | rewrite f => f.message
  | packaging f => f.report
  | longScore => Reading.unwritable
  | declined => ((e.failure?).map Failure.report).getD []

end RunError

/-- What a run has made. -/
structure RunResult where
  analysis : Analysis
  stats : CleaningStats
  archiveRef : Text
  scoreAfter : Int
  projectName : Text
  skipped : List Text
  removedDependencies : List Text
  /-- The record of the run, if it could be added. -/
  record : Option Record
  /-- The files of the project as they were packed. -/
  files : Snapshot

/-- What a run, or a part of it, comes to. -/
structure Ran where
  result : Except RunError RunResult
  session : Session
  /-- The reports of progress, before they are kept from going back. -/
  milestones : List Milestone := []
  /-- What was handed to the text-transform service. -/
  log : AssistantLog := {}

namespace Completion

/-- The cleaned project with replacement modules. -/
structure Cleaned where
  cleaning : Cleaning
  files : Snapshot
  polyfills : List Polyfill
  stats : CleaningStats
  scoreAfter : Int

/-- The name of the project. -/
def projectName (o : RunOptions) (label : Text) : Text :=
  (o.projectName.filter (!·.isEmpty)).getD
    (ProjectName.ofSource (Text.beforeFirst '@' label))

/-- Add the replacement modules to a cleaned project and analyze it again. -/
def finish (s : Settings) (c : Cleaning) : Except RunError Cleaned :=
  let (files, polyfills) := Polyfill.complete s c.files
  match Analysis.ofSnapshot s files with
  | .error e => .error (.analysis e)
  | .ok after => .ok {
      cleaning := c
      files
      polyfills
      stats := { c.stats with polyfillsGenerated := polyfills.length }
      scoreAfter := after.score }

/-- The report of a run. -/
def report (r : Retrieved) (a : Analysis) (name : Text) (c : Cleaned) (now : Moment) : Report where
  projectName := name
  analysis := a
  stats := c.stats
  scoreAfter := c.scoreAfter
  removedDependencies := c.cleaning.removedDependencies
  removedPaths := c.cleaning.removedPaths
  skipped := r.skipped
  polyfills := c.polyfills
  generatedAt := now

/-- Pack and store a cleaned project; the answer is the reference of the archive.  The report shows
both scores, so it is written only when they can be. -/
def package (k : Desk) (s : Session) (r : Retrieved) (a : Analysis) (name : Text) (c : Cleaned) :
    Except RunError Text × Session :=
  let (now, s) := s.now
  if !Reading.isWritable a.score || !Reading.isWritable c.scoreAfter then (.error .longScore, s)
  else
    match Packaging.pack k.settings c.files name (report r a name c now).toText with
    | .error f => (.error (.packaging f), s)
    | .ok members =>
      match k.store s (Zip.write members) with
      | (.ok ref, s) => (.ok ref, s)
      | (.error why, s) =>
        (.error (.packaging { kind := .packaging, message := "Cannot store archive: " ++ why }), s)

/-- The record of a run. -/
def recordOf (o : RunOptions) (a : Analysis) (name : Text) (c : Cleaned) (ref run : Text)
    (now : Moment) : Record where
  runId := run
  ownerId := o.owner
  projectName := name
  scoreBefore := a.score
  scoreAfter := c.scoreAfter
  filesTotal := c.files.size
  createdAt := now.iso
  archiveRef := ref

/-- Record a run; without a record the ledger could not be added to. -/
def record (k : Desk) (s : Session) (o : RunOptions) (a : Analysis) (name : Text) (c : Cleaned)
    (ref : Text) : Option Record × Session :=
  let (run, s) := s.identifier
  let (now, s) := s.now
  let r := recordOf o a name c ref run now
  match k.record s r with
  | (true, s) => (some r, s)
  | (false, s) => (none, s)

/-- The milestones of the cleaning. -/
def cleaningMilestones (log : AssistantLog) : List Milestone :=
  log.progress.map (fun (done, total) => Progress.step 55 80 "AI rewrite" done total) ++
    [⟨80, "Cleaning done"⟩, ⟨85, "Generating polyfills"⟩]

/-- Store and record a cleaned project. -/
def deliver (k : Desk) (s : Session) (r : Retrieved) (a : Analysis) (o : RunOptions) (name : Text)
    (c : Cleaned) : Ran :=
  match package k s r a name c with
  | (.error e, s) =>
    { result := .error e, session := s, milestones := [⟨90, "Packaging"⟩] }
  | (.ok ref, s) =>
    let (entry, s) := record k s o a name c ref
    { result := .ok {
        analysis := a
        stats := c.stats
        archiveRef := ref
        scoreAfter := c.scoreAfter
        projectName := name
        skipped := r.skipped
        removedDependencies := c.cleaning.removedDependencies
        record := entry
        files := c.files }
      session := s
      milestones := [⟨90, "Packaging"⟩, ⟨95, "Recording run"⟩, ⟨100, "Done"⟩] }

/-- Clean, pack, store and record a project. -/
def run (k : Desk) (s : Session) (r : Retrieved) (a : Analysis) (o : RunOptions) : Ran :=
  let assistant := if o.useAssistant then k.assistant else none
  match Cleaning.run k.settings r.snapshot a.filesToRemove assistant with
  | .error e =>
    { result := .error (.rewrite e), session := s, milestones := [⟨50, "Cleaning"⟩] }
  | .ok cleaning =>
    let milestones := ⟨50, "Cleaning"⟩ :: cleaningMilestones cleaning.log
    match finish k.settings cleaning with
    | .error e => { result := .error e, session := s, milestones, log := cleaning.log }
    | .ok c =>
      let delivered := deliver k s r a o (projectName o r.label) c
      { delivered with
        milestones := milestones ++ delivered.milestones
        log := cleaning.log }

end Completion

end Decouple
