import Decouple.Disk
import Decouple.Failure
import Decouple.Ledger.Record
import Decouple.Text.Blank
import Decouple.Text.Lines

/-!
# The ledger of runs

The ledger is a file with one record for each line.  Records are added at its end; deleting writes
it anew.  What a ledger says is the list of its records, and a line that is no record makes the
whole ledger unreadable.
-/

namespace Decouple

/-- Why a ledger could not be used. -/
inductive LedgerError where
  | failure (f : Failure)
  /-- A number of a record is infinite. -/
  | infinite
  /-- Values of a line nest too deep. -/
  | tooDeep (holder : Json.Holder)
  /-- The file is no text. -/
  | notText (u : Utf8.Unreadable)
  /-- A number of a record has more digits than are written. -/
  | longNumber

/-- An error in words. -/
def LedgerError.message : LedgerError → Text
  | failure f => f.report
  | infinite => RecordFault.infinite.message
  | tooDeep holder => holder.tooDeep
  | notText u => u.message
  | longNumber => Reading.unwritable

namespace Ledger

/-! ## The text of a ledger -/

/-- The failure of a ledger with a message. -/
def failed (message : Text) : LedgerError := .failure { kind := .ledger, message }

/-- The error of a line. -/
def corrupt (path : Text) (number : Nat) : RecordFault → LedgerError
  | .infinite => .infinite
  | .json (.tooDeep holder) => .tooDeep holder
  | fault =>
    failed ("Corrupt ledger line " ++ Text.ofNat number ++ " in " ++ path ++ ": " ++ fault.message)

/-- The records of lines, the first of which has a number; blank lines hold none. -/
def readLines (path : Text) (number : Nat) : List Text → Except LedgerError (List Record)
  | [] => .ok []
  | line :: rest =>
    if Text.isBlank line then readLines path (number + 1) rest
    else do
      let record ← (Record.ofLine line).mapError (corrupt path number)
      let records ← readLines path (number + 1) rest
      .ok (record :: records)

/-- The records of a text. -/
def readText (path t : Text) : Except LedgerError (List Record) :=
  readLines path 1 ((Text.lines t).map (·.body))

/-- The text of records. -/
def writeText (records : List Record) : Text := records.flatMap Record.toLine

/-! ## The records of a ledger -/

/-- The records of an owner, the latest first; of one moment they stay in their order. -/
def ofOwner (owner : Text) (records : List Record) : List Record :=
  Sorting.sort (fun a b => Text.le b.createdAt a.createdAt)
    (records.filter fun r => r.ownerId = owner)

/-- Whether a record is that of a run of an owner. -/
def isRun (run owner : Text) (r : Record) : Bool := r.runId = run && r.ownerId = owner

/-- The records without those of a run of an owner. -/
def without (run owner : Text) (records : List Record) : List Record :=
  records.filter fun r => !isRun run owner r

/-! ## The file of a ledger -/

/-- The records of the ledger in a file; without a file there are none. -/
def records (d : Disk) (path : Text) : Except LedgerError (List Record) :=
  if !d.exists? path then .ok []
  else
    match d.read path with
    | .error e => .error (failed ("Cannot read " ++ FilePath.normal path ++ ": " ++ e.message))
    | .ok bytes =>
      match Utf8.decode bytes with
      | .error u => .error (.notText u)
      | .ok t => readText (FilePath.normal path) t

/-- The folder of a path. -/
def folderOf (path : Text) : Text :=
  FilePath.root path ++ Text.join "/" (FilePath.components path).dropLast

/-- Add a record.  Its line is written out before the disk is touched. -/
def insert (d : Disk) (path : Text) (record : Record) : Except LedgerError Disk :=
  if !record.isWritable then .error .longNumber
  else
    let added : Except DiskError Disk := do
      let d ← d.makeFolders (folderOf path)
      d.append path (Utf8.encodeAll record.toLine)
    added.mapError fun e => failed ("Cannot write " ++ FilePath.normal path ++ ": " ++ e.message)

/-- The records of an owner, the latest first. -/
def list (d : Disk) (path owner : Text) : Except LedgerError (List Record) :=
  (records d path).map (ofOwner owner)

/-- The file that a ledger is written to before it takes the place of the old one. -/
def draft (path : Text) : Text := FilePath.normal path ++ ".tmp"

/-- Replace the records of a ledger. -/
def replace (d : Disk) (path : Text) (kept : List Record) : Except LedgerError Disk :=
  let written : Except DiskError Disk := do
    let d ← d.write (draft path) (Utf8.encodeAll (writeText kept))
    d.rename (draft path) path
  written.mapError fun e => failed ("Cannot rewrite " ++ FilePath.normal path ++ ": " ++ e.message)

/-- Delete the records of a run of an owner; tells whether there were any. -/
def delete (d : Disk) (path run owner : Text) : Except LedgerError (Bool × Disk) := do
  let all ← records d path
  if (without run owner all).length = all.length then .ok (false, d)
  else
    let d ← replace d path (without run owner all)
    .ok (true, d)

end Ledger

end Decouple
