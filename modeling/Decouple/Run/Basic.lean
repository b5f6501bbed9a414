import Decouple.Run.Completion

/-!
# Runs

A run retrieves a project, analyzes it, lets someone decide whether to go on, and completes.  It
ends early when the source cannot be read, the analysis fails, the decision is against it, or the
result cannot be packed or stored; such a run stores and records nothing.
-/

namespace Decouple

/-- A run with what can be seen of it from outside. -/
structure Run extends Ran where
  /-- The analysis on which someone decided. -/
  asked : Option Analysis := none
  /-- The addresses of the requests for a repository. -/
  requests : List Text := []

namespace Run

/-- The milestone after the analysis. -/
def analyzed (a : Analysis) : Milestone := ⟨45, "Analysis score " ++ Text.ofInt a.score⟩

/-- The milestone after the retrieval. -/
def retrieved (r : Retrieved) : Milestone :=
  ⟨40, "Retrieved " ++ Text.ofNat r.snapshot.size ++ " files"⟩

/-- The options of a run with the name of the project filled in. -/
def named (o : RunOptions) (source : Source) : RunOptions :=
  { o with projectName := some (o.projectName.getD source.projectName) }

/-- Decide on an analysis and complete the run. -/
def afterAnalysis (k : Desk) (s : Session) (source : Source) (o : RunOptions) (r : Retrieved)
    (a : Analysis) : Run :=
  let asked := if o.approve.isSome then some a else none
  if (o.approve.map fun approve => approve a).getD true then
    { Completion.run k s r a (named o source) with asked }
  else { result := .error .declined, session := s, asked }

/-- Run on a source. -/
def perform (k : Desk) (s : Session) (source : Source) (o : RunOptions) : Run :=
  let retrieval := Retrieval.ofSource k s source o.reference
  let s := s.send retrieval.requests
  let start := ⟨0, "Retrieving"⟩ :: retrieval.milestones
  match retrieval.result with
  | .error e =>
    { result := .error (.retrieval e), session := s, milestones := start
      requests := retrieval.requests }
  | .ok r =>
    match Analysis.ofSnapshot k.settings r.snapshot with
    | .error e =>
      { result := .error (.analysis e), session := s, milestones := start ++ [retrieved r]
        requests := retrieval.requests }
    | .ok a =>
      if !Reading.isWritable a.score then
        { result := .error .longScore, session := s, milestones := start ++ [retrieved r]
          requests := retrieval.requests }
      else
        let decided := afterAnalysis k s source o r a
        { decided with
          milestones := start ++ [retrieved r, analyzed a] ++ decided.milestones
          requests := retrieval.requests }

/-- The reports of progress that are shown: the percentage never goes back. -/
def progress (run : Run) : List Milestone := Progress.emit 0 run.milestones

end Run

end Decouple
