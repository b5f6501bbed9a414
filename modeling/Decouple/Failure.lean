import Decouple.Text.CodePoint

/-!
# Failures

A failure carries the stage of a run that it comes from.  Each kind has its own stage unless one
is given.
-/

namespace Decouple

/-- The kinds of failure. -/
inductive FailureKind where
  /-- Of no stage in particular. -/
  | general
  /-- The source cannot be reached or read. -/
  | retrieval
  /-- The files handed over for analysis are malformed. -/
  | analysis
  /-- The text-transform service gave no usable answer. -/
  | cleaning
  /-- The archive cannot be built or stored. -/
  | packaging
  /-- The history cannot be read or written. -/
  | ledger
  /-- The caller declined to go on after the analysis. -/
  | abandoned
  /-- The settings cannot be used. -/
  | configuration
  deriving DecidableEq

/-- The stage that a kind of failure comes from. -/
def FailureKind.stage : FailureKind → Text
  | general => "pipeline"
  | retrieval => "retrieval"
  | analysis => "analysis"
  | cleaning => "cleaning"
  | packaging => "packaging"
  | ledger => "ledger"
  | abandoned => "decision"
  | configuration => "config"

/-- A failure with its message. -/
structure Failure where
  kind : FailureKind
  message : Text
  stage : Text := kind.stage
  deriving DecidableEq

/-- The failure as it is reported: its stage in brackets, then its message. -/
def Failure.report (f : Failure) : Text := "[" ++ f.stage ++ "] " ++ f.message

end Decouple
