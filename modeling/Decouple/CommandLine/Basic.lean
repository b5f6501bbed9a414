import Decouple.Analysis.Json
import Decouple.CommandLine.Command
import Decouple.Console.Basic
import Decouple.Environment
import Decouple.Json.Writer
import Decouple.Run.Basic
import Decouple.Run.Breakdown
import Decouple.Text.Blank
import Decouple.Text.Case
import Decouple.Text.Parts

/-!
# The command line

A command prints blocks and ends with an exit code: 0 when all went well, 1 after an error, 2 when
the arguments make no command or the run was declined.  A breakdown ends a command with 1 as well.
-/

namespace Decouple

/-!
## Questions on the console

Before a project is cleaned, the command line asks whether to go on, and asks again until an answer
is understood.  Answers are shown as they are given.
-/

/-- What asking comes to. -/
structure Asked where
  printed : Text
  /-- The answer; none when the input ended first. -/
  verdict : Option Bool
  deriving DecidableEq

namespace Prompt

/-- The question. -/
def question : Text := "Proceed with cleaning? [Y/n]: "

/-- What a line answers; an empty one agrees. -/
def verdict? (line : Text) : Option Bool :=
  let answer := Text.trim (Text.lowerCase line)
  if (["y", "yes", ""] : List Text).contains answer then some true
  else if (["n", "no"] : List Text).contains answer then some false
  else none

/-- Ask until a line answers. -/
def ask : List Text → Asked
  | [] => ⟨question, none⟩
  | line :: rest =>
    let shown := question ++ line ++ "\n"
    match verdict? line with
    | some verdict => ⟨shown, some verdict⟩
    | none =>
      let later := ask rest
      ⟨shown ++ "Error: invalid input\n" ++ later.printed, later.verdict⟩

/-- The input with a line feed for each end of a line. -/
def unified : Text → Text
  | [] => []
  | c :: rest =>
    if c = '\r' then
      if Text.startsWith rest "\n" then unified rest else CodePoint.ofChar '\n' :: unified rest
    else c :: unified rest

/-- The lines of the input. -/
def lines (input : Text) : List Text :=
  let parts := Text.splitOn '\n' (unified input)
  if parts.getLast? = some [] then parts.dropLast else parts

end Prompt

/-!
## What commands show

The blocks in which analyses, results and records are printed.
-/

namespace CommandLine

/-- A failure. -/
def failureBlock (f : Failure) : Block := .line ("Error: " ++ f.report)

/-- The line of an issue; none when it is not known. -/
def lineCell : Option Nat → Text
  | none => []
  | some n => if n = 0 then [] else Text.ofNat n

/-- Issues as a table. -/
def issueTable (issues : List Issue) : Table where
  title := "Issues"
  columns := [
    { heading := "Severity", cells := issues.map fun i => i.severity.name },
    { heading := "File", cells := issues.map (·.path) },
    { heading := "Line", cells := issues.map fun i => lineCell i.line, alignRight := true },
    { heading := "Description", cells := issues.map (·.description) }]

/-- The score of an analysis. -/
def scoreBlock (a : Analysis) : Block :=
  .line ("Portability score: " ++ Text.ofInt a.score ++ "/100 (platform: " ++
    (a.platform.filter (!·.isEmpty)).getD "none detected" ++ ")")

/-- The issues of an analysis. -/
def issueBlock (a : Analysis) : Block :=
  if a.issues.isEmpty then .line "No proprietary signals found" else .table (issueTable a.issues)

/-- The files to remove. -/
def removalBlocks (a : Analysis) : List Block :=
  if a.filesToRemove.isEmpty then []
  else [.line ("Files to remove: " ++ Text.join ", " a.filesToRemove)]

/-- An analysis. -/
def analysisBlocks (a : Analysis) : List Block :=
  scoreBlock a :: issueBlock a :: removalBlocks a ++
    a.recommendations.map fun r => .line ("  • " ++ r)

/-- An analysis as JSON. -/
def analysisJson (a : Analysis) : Block := .verbatim (a.toJson.write .pretty)

/-- How many files were skipped, if any. -/
def skippedBlocks (skipped : List Text) : List Block :=
  if skipped.isEmpty then [] else [.line ("Skipped " ++ Text.ofNat skipped.length ++ " files")]

/-- The counters of a cleaning. -/
def statsBlock (s : CleaningStats) : Block :=
  .line ("Removed " ++ Text.ofInt s.filesRemoved ++ " files, rewrote " ++
    Text.ofInt s.changedLocally ++ " locally and " ++ Text.ofInt s.changedByAssistant ++
    " with AI, dropped " ++ Text.ofInt s.dependenciesRemoved ++ " dependencies, generated " ++
    Text.ofInt s.polyfillsGenerated ++ " polyfills")

/-- The result of a run. -/
def resultBlocks (r : RunResult) : List Block :=
  [.line ("Score: " ++ Text.ofInt r.analysis.score ++ " -> " ++ Text.ofInt r.scoreAfter),
    statsBlock r.stats] ++ skippedBlocks r.skipped ++
  (if r.record.isNone then [.line "Warning: run was not recorded in history"] else [])

/-- Records as a table. -/
def recordTable (records : List Record) : Table where
  title := "Runs"
  columns := [
    { heading := "Run", cells := records.map (·.runId) },
    { heading := "Project", cells := records.map (·.projectName) },
    { heading := "Before", cells := records.map fun r => Text.ofInt r.scoreBefore },
    { heading := "After", cells := records.map fun r => Text.ofInt r.scoreAfter },
    { heading := "Files", cells := records.map fun r => Text.ofInt r.filesTotal },
    { heading := "Created", cells := records.map (·.createdAt) }]

/-- Records. -/
def recordBlock (records : List Record) : Block :=
  if records.isEmpty then .line "No runs recorded" else .table (recordTable records)

end CommandLine

/-! ## Commands -/

/-- What a command finds around it. -/
structure Surroundings where
  environment : Environment := []
  /-- What is typed in. -/
  input : Text := []
  host : Host := fun _ _ => .nothing
  /-- The text-transform service under some settings. -/
  assistant : Settings → Option Assistant := fun _ => none

/-- How a command ends. -/
inductive Ending where
  | exit (code : Nat)
  | breakdown (b : Breakdown)

/-- What a command comes to. -/
structure Performance where
  printed : Text
  ending : Ending
  session : Session
  /-- Whether the input ended before a question was answered. -/
  unanswered : Bool := false

namespace CommandLine

/-- Print blocks after some text and end. -/
def finish (s : Session) (before : Text) (blocks : List Block) (ending : Ending) : Performance :=
  let p := Printout.ofBlocks blocks
  { printed := before ++ p.text
    ending := (p.fault.map fun f => Ending.breakdown (.print f)).getD ending
    session := s }

/-- End with what went wrong. -/
def trouble (s : Session) (before : Text) : Trouble → Performance
  | .failure f => finish s before [failureBlock f] (.exit 1)
  | .breakdown b => { printed := before, ending := .breakdown b, session := s }

/-! ## Analyzing -/

/-- Analyze a project. -/
def analyze (k : Desk) (s : Session) (source : Text) (reference : Option Text) (json : Bool) :
    Performance :=
  let retrieval := Retrieval.ofSource k s (.named source) reference
  let s := s.send retrieval.requests
  match retrieval.result with
  | .error e => trouble s [] (.ofRun (.retrieval e))
  | .ok r =>
    match Analysis.ofSnapshot k.settings r.snapshot with
    | .error e => trouble s [] (.ofAnalysis e)
    | .ok a =>
      if json then finish s [] [analysisJson a] (.exit 0)
      else finish s [] (analysisBlocks a ++ skippedBlocks r.skipped) (.exit 0)

/-! ## Liberating -/

/-- The answer to the question whether to go on. -/
def decision (o : LiberateOptions) (input : Text) : Asked :=
  if o.confirmed then ⟨[], some true⟩ else Prompt.ask (Prompt.lines input)

/-- The options of the run; an analysis that cannot be printed is not agreed to. -/
def runOptions (o : LiberateOptions) (verdict : Option Bool) : RunOptions where
  projectName := o.projectName
  owner := o.owner
  useAssistant := o.useAssistant
  reference := o.reference
  approve := some fun a =>
    (Printout.ofBlocks (analysisBlocks a)).fault.isNone && verdict = some true

/-- Write the archive of a run, or say how it is found. -/
def deliver (k : Desk) (s : Session) (before : Text) (output : Option Text) (r : RunResult) :
    Performance :=
  match output with
  | none => finish s before [.line ("Archive reference: " ++ r.archiveRef)] (.exit 0)
  | some path =>
    match s.disk.write path ((k.archive? s r.archiveRef).getD []) with
    | .error e => trouble s before (.breakdown (.disk e))
    | .ok disk =>
      finish { s with disk } before [.line ("Wrote archive to " ++ FilePath.normal path)] (.exit 0)

/-- End a run whose analysis was agreed to, or that came to none. -/
def conclude (k : Desk) (before : Text) (output : Option Text) (run : Run) : Performance :=
  match run.result with
  | .ok r => deliver k run.session (before ++ (Printout.ofBlocks (resultBlocks r)).text) output r
  | .error .declined => finish run.session before [.line "Cancelled"] (.exit 2)
  | .error e => trouble run.session before (.ofRun e)

/-- The line feed where the progress bar ends. -/
def barEnd : Text := "\n"

/-- Show the analysis of a run and the question, and end the run. -/
def showAnalysis (k : Desk) (o : LiberateOptions) (asked : Asked) (run : Run) (a : Analysis) :
    Performance :=
  let shown := Printout.ofBlocks (analysisBlocks a)
  match shown.fault, asked.verdict with
  | some f, _ => trouble run.session (shown.text ++ barEnd) (.breakdown (.print f))
  | none, none =>
    { printed := shown.text ++ barEnd ++ asked.printed ++ barEnd, ending := .exit 1
      session := run.session, unanswered := true }
  | none, some _ =>
    let question := if o.confirmed then [] else barEnd ++ asked.printed
    conclude k (shown.text ++ question ++ barEnd) o.output run

/-- Liberate a project. -/
def liberate (k : Desk) (s : Session) (input : Text) (o : LiberateOptions) : Performance :=
  let asked := decision o input
  let run := Run.perform k s (.named o.source) (runOptions o asked.verdict)
  match run.asked with
  | none => conclude k barEnd o.output run
  | some a => showAnalysis k o asked run a

/-! ## The history -/

/-- List the runs of an owner. -/
def history (k : Desk) (s : Session) (owner : Text) : Performance :=
  match Ledger.list s.disk k.ledger owner with
  | .error e => trouble s [] (.ofLedger e)
  | .ok records => finish s [] [recordBlock records] (.exit 0)

/-- Forget a run of an owner. -/
def forget (k : Desk) (s : Session) (run owner : Text) : Performance :=
  match Ledger.delete s.disk k.ledger run owner with
  | .error e => trouble s [] (.ofLedger e)
  | .ok (false, disk) =>
    finish { s with disk } [] [.line ("Error: No run " ++ run ++ " for " ++ owner)] (.exit 1)
  | .ok (true, disk) => finish { s with disk } [] [.line ("Deleted run " ++ run)] (.exit 0)

/-! ## All commands -/

/-- The desk under some settings. -/
def desk (o : Surroundings) (settings : Settings) : Desk :=
  { Desk.ofSettings settings with host := o.host, assistant := o.assistant settings }

/-- Carry out a command. -/
def perform (k : Desk) (s : Session) (input : Text) : Command → Performance
  | .analyze source reference json => analyze k s source reference json
  | .liberate o => liberate k s input o
  | .history owner => history k s owner
  | .forget run owner => forget k s run owner

/-- Carry out the command that arguments make. -/
def run (o : Surroundings) (s : Session) (arguments : List Text) : Performance :=
  match Command.read arguments with
  | none => { printed := [], ending := .exit 2, session := s }
  | some command =>
    match Environment.settings o.environment with
    | .error f => trouble s [] (.failure f)
    | .ok settings => perform (desk o settings) s o.input command

end CommandLine

end Decouple
