import Decouple.Console.Basic
import Decouple.Run.Completion

/-!
# Breakdowns

A breakdown is an error that no failure stands for: nothing in a run expects it, so it ends
whatever is being done.
-/

namespace Decouple

/-- An error that ends whatever is being done. -/
inductive Breakdown where
  | run (e : RunError)
  | analysis (e : AnalysisError)
  | ledger (e : LedgerError)
  | disk (e : DiskError)
  | print (f : PrintFault)

/-- A breakdown in words. -/
def Breakdown.message : Breakdown → Text
  | run e => e.message
  | analysis e => e.message
  | ledger e => e.message
  | disk e => e.message
  | print f => f.message

/-- What went wrong: a failure, which is reported, or a breakdown. -/
inductive Trouble where
  | failure (f : Failure)
  | breakdown (b : Breakdown)

namespace Trouble

/-- What went wrong in a run. -/
def ofRun (e : RunError) : Trouble :=
  match e.failure? with
  | some f => failure f
  | none => breakdown (.run e)

/-- What went wrong in an analysis. -/
def ofAnalysis (e : AnalysisError) : Trouble :=
  match e.failure? with
  | some f => failure f
  | none => breakdown (.analysis e)

/-- What went wrong with the ledger. -/
def ofLedger : LedgerError → Trouble
  | .failure f => failure f
  | e => breakdown (.ledger e)

end Trouble

end Decouple
