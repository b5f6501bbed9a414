import Decouple.Json.Access
import Decouple.Json.Reader
import Decouple.Json.Writer
import Decouple.Number.Reading

/-!
# Records of runs

A record is written as one JSON object.  Reading takes any value for a text and shows it as one,
and takes any number, truth value or numeral for a number.
-/

namespace Decouple

/-- A record of a run that ended well. -/
structure Record where
  runId : Text
  ownerId : Text
  projectName : Text
  scoreBefore : Int
  scoreAfter : Int
  filesTotal : Int
  createdAt : Text
  archiveRef : Text
  deriving DecidableEq

/-- Why a value is no record. -/
inductive RecordFault where
  | json (e : JsonError)
  | access (e : AccessError)
  | numeral (e : Reading.IntegerError)
  | notANumber (kind : Text)
  | undefined
  | infinite

namespace RecordFault

/-- A fault in words. -/
def message : RecordFault → Text
  | json e => e.message
  | access e => e.message
  | numeral e => e.message
  | notANumber kind =>
    "int() argument must be a string, a bytes-like object or a real number, not '" ++ kind ++ "'"
  | undefined => "cannot convert float NaN to integer"
  | infinite => "cannot convert float infinity to integer"

end RecordFault

namespace Record

/-- The members of a record. -/
def members (r : Record) : List (Text × Json) := [
  ("run_id", .string r.runId), ("owner_id", .string r.ownerId),
  ("project_name", .string r.projectName), ("score_before", .int r.scoreBefore),
  ("score_after", .int r.scoreAfter), ("files_total", .int r.filesTotal),
  ("created_at", .string r.createdAt), ("archive_ref", .string r.archiveRef)]

/-- A record as a JSON value. -/
def toJson (r : Record) : Json := .object r.members

/-- Whether the numbers of a record have few enough digits to be written. -/
def isWritable (r : Record) : Bool :=
  [r.scoreBefore, r.scoreAfter, r.filesTotal].all Reading.isWritable

/-- A record as a line. -/
def toLine (r : Record) : Text := r.toJson.write .line ++ "\n"

/-- The integer that a value is or shows. -/
def integer : Json → Except RecordFault Int
  | .int n => .ok n
  | .bool b => .ok (if b then 1 else 0)
  | .string t => (Reading.integer t).mapError .numeral
  | .real .nan => .error .undefined
  | .real x =>
    match x.truncate? with
    | some n => .ok n
    | none => .error .infinite
  | j => .error (.notANumber j.kindName)

/-- A member as a text. -/
def textOf (j : Json) (name : Text) : Except RecordFault Text :=
  ((j.named name).mapError .access).map Json.asText

/-- A member as an integer. -/
def integerOf (j : Json) (name : Text) : Except RecordFault Int := do
  let value ← (j.named name).mapError .access
  integer value

/-- Read a record. -/
def ofJson (j : Json) : Except RecordFault Record := do
  let runId ← textOf j "run_id"
  let ownerId ← textOf j "owner_id"
  let projectName ← textOf j "project_name"
  let scoreBefore ← integerOf j "score_before"
  let scoreAfter ← integerOf j "score_after"
  let filesTotal ← integerOf j "files_total"
  let createdAt ← textOf j "created_at"
  let archiveRef ← textOf j "archive_ref"
  .ok { runId, ownerId, projectName, scoreBefore, scoreAfter, filesTotal, createdAt, archiveRef }

/-- Read a record from a line. -/
def ofLine (t : Text) : Except RecordFault Record := do
  let j ← (Json.read t).mapError .json
  ofJson j

end Record

end Decouple
