import Decouple.Analysis.Basic
import Decouple.Rewrite.Basic

/-!
# Cleaning a project

Cleaning drops the platforms' own files, rewrites every text file by rule, and may hand the source
files to a text-transform service, one call at a time.  The service can only replace the text of a
source file, and only by a text that is not blank; a failed call leaves the rewritten text.
-/

namespace Decouple

/-- What a call of the text-transform service comes to. -/
inductive Transformed where
  | success (content : Text)
  | failure (message : Text)
  deriving DecidableEq

namespace Transformed

/-- The transformed text, or a text to use when the call failed. -/
def getD (fallback : Text) : Transformed → Text
  | success content => content
  | failure _ => fallback

end Transformed

/-- A text-transform service: what a call with an instruction and a text comes to, given the calls
before it. -/
abbrev Assistant := List (Text × Text) → Text → Text → Transformed

/-- A client of a service, of which a call may also raise something. -/
abbrev Client (ε : Type) := List (Text × Text) → Text → Text → Except ε Transformed

/-- The service that a client offers: a call that raises has failed. -/
def Client.guarded {ε : Type} (describe : ε → Text) (client : Client ε) : Assistant :=
  fun earlier instruction content =>
    match client earlier instruction content with
    | .ok t => t
    | .error e => .failure (describe e)

/-- What cleaning made of one file. -/
structure Outcome where
  path : Text
  content : Content
  notes : List Note := []
  byAssistant : Bool := false

/-- Whether a file is not what it was. -/
def Outcome.changed (o : Outcome) : Bool := !o.notes.isEmpty || o.byAssistant

/-- Counters of a cleaning. -/
structure CleaningStats where
  filesRemoved : Int := 0
  changedLocally : Int := 0
  changedByAssistant : Int := 0
  dependenciesRemoved : Int := 0
  polyfillsGenerated : Int := 0
  addressesReplaced : Int := 0
  deriving DecidableEq

namespace CleaningStats

/-- The counters with their names. -/
def toList (s : CleaningStats) : List (Text × Int) := [
  ("files_removed", s.filesRemoved), ("files_changed_locally", s.changedLocally),
  ("files_changed_by_ai", s.changedByAssistant), ("dependencies_removed", s.dependenciesRemoved),
  ("polyfills_generated", s.polyfillsGenerated), ("cdn_urls_replaced", s.addressesReplaced)]

end CleaningStats

/-- What happens while the service is called. -/
inductive AssistantEvent where
  /-- A wait. -/
  | slept (delay : Delay)
  /-- A call: a text is handed over with an instruction. -/
  | submitted (instruction content : Text)
  /-- A report of how many calls have been made and are to be made. -/
  | progressed (done total : Nat)

/-- What has happened while the service was called, in order. -/
structure AssistantLog where
  events : List AssistantEvent := []

namespace AssistantLog

/-- The texts handed over, each with its instruction. -/
def submitted (l : AssistantLog) : List (Text × Text) :=
  l.events.filterMap fun
    | .submitted instruction content => some (instruction, content)
    | _ => none

/-- The waits between calls. -/
def sleeps (l : AssistantLog) : List Delay :=
  l.events.filterMap fun
    | .slept delay => some delay
    | _ => none

/-- After each call the number of calls made and to be made. -/
def progress (l : AssistantLog) : List (Nat × Nat) :=
  l.events.filterMap fun
    | .progressed done total => some (done, total)
    | _ => none

/-- The log after one more call of `total`, with a wait before it unless it is the first. -/
def afterCall (l : AssistantLog) (delay : Delay) (total : Nat) (instruction content : Text) :
    AssistantLog :=
  let earlier := l.submitted.length
  let wait : List AssistantEvent := if earlier = 0 then [] else [.slept delay]
  ⟨l.events ++ wait ++ [.submitted instruction content, .progressed (earlier + 1) total]⟩

end AssistantLog

/-- A cleaned project. -/
structure Cleaning where
  outcomes : List Outcome
  stats : CleaningStats
  removedPaths : List Text
  removedDependencies : List Text
  log : AssistantLog := {}

namespace Cleaning

/-- The cleaned files. -/
def files (c : Cleaning) : Snapshot :=
  Snapshot.ofFiles (c.outcomes.map fun o => ⟨o.path, o.content⟩)

/-! ## Removing files -/

/-- The paths to remove: those listed and those of the platforms' own files, in order. -/
def pathsToRemove (s : Settings) (snapshot : Snapshot) (listed : List Text) : List Text :=
  snapshot.sortedPaths.filter fun path => listed.contains path || s.removesPath path

/-! ## Rewriting files -/

/-- Rewrite a file by rule; bytes stay as they are. -/
def rewriteFile (s : Settings) (f : File) : Except RewriteFault Outcome :=
  match f.content with
  | .bytes b => .ok { path := f.path, content := .bytes b }
  | .text t =>
    (Rewrite.file s f.path t).map fun r =>
      { path := f.path, content := .text r.content, notes := r.notes }

/-- The number of platform addresses of a content. -/
def addressCount (s : Settings) (c : Content) : Nat :=
  (Signature.findAddresses s c.asText).length

/-- The number of platform addresses that a file has lost. -/
def addressesLost (s : Settings) (f : File) (o : Outcome) : Nat :=
  addressCount s f.content - addressCount s o.content

/-- The number of platform addresses that files have lost. -/
def totalLost (s : Settings) : List File → List Outcome → Nat
  | f :: files, o :: outcomes => addressesLost s f o + totalLost s files outcomes
  | _, _ => 0

/-- Rewrite files by rule. -/
def rewriteFiles (s : Settings) (files : List File) : Except RewriteFault (List Outcome) :=
  files.mapM (rewriteFile s)

/-! ## The text-transform service -/

/-- Whether the service is asked about a file: text of a source file. -/
def isSubmitted (o : Outcome) : Bool := o.content.isText && FileRole.ofPath o.path = .source

/-- The outcome of a file that the service was asked about. -/
def withReply (o : Outcome) (reply : Transformed) : Outcome :=
  let current := o.content.asText
  let candidate := reply.getD current
  if Text.isBlank candidate || candidate = current then o
  else { o with content := .text candidate, byAssistant := true }

/-- The outcomes after the service was asked about those of source files, `total` in all, and what
has happened by then; `log` is what has happened before. -/
def askFrom (s : Settings) (assistant : Assistant) (total : Nat) (log : AssistantLog) :
    List Outcome → List Outcome × AssistantLog
  | [] => ([], log)
  | o :: rest =>
    if isSubmitted o then
      let current := o.content.asText
      let reply := assistant log.submitted s.instruction current
      let log := log.afterCall s.assistant.callDelay total s.instruction current
      let (others, log) := askFrom s assistant total log rest
      (withReply o reply :: others, log)
    else
      let (others, log) := askFrom s assistant total log rest
      (o :: others, log)

/-- The outcomes after the service was asked, and what has happened by then. -/
def ask (s : Settings) (assistant : Assistant) (outcomes : List Outcome) :
    List Outcome × AssistantLog :=
  askFrom s assistant (outcomes.filter isSubmitted).length {} outcomes

/-! ## All of it -/

/-- Clean a snapshot; `listed` are the paths that its analysis wants removed. -/
def run (s : Settings) (snapshot : Snapshot) (listed : List Text) (assistant : Option Assistant) :
    Except RewriteFault Cleaning :=
  let removed := pathsToRemove s snapshot listed
  let survivors := (snapshot.without removed).sorted
  (rewriteFiles s survivors).map fun rewritten =>
    let (outcomes, log) :=
      match assistant with
      | some a => ask s a rewritten
      | none => (rewritten, {})
    let dependencies := Text.distinct (rewritten.flatMap fun o => Note.dependencies o.notes)
    { outcomes
      stats :=
        { filesRemoved := removed.length
          changedLocally := (rewritten.filter fun o => !o.notes.isEmpty).length
          changedByAssistant := (outcomes.filter (·.byAssistant)).length
          dependenciesRemoved := dependencies.length
          addressesReplaced := totalLost s survivors rewritten }
      removedPaths := removed
      removedDependencies := dependencies
      log }

end Cleaning

end Decouple
