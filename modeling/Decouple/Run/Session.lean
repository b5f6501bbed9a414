import Decouple.Archives
import Decouple.Assistant.Answer
import Decouple.Ledger.Basic
import Decouple.Moment
import Decouple.Retrieval.Fetch

/-!
# Sessions

A session is what runs share and change: the disk, how often the clock was read, how many
identifiers were given out and which requests were sent.  A desk says how runs work: under which
settings, with which services, and where archives and records are kept.
-/

namespace Decouple

/-- What runs share and change. -/
structure Session where
  disk : Disk := {}
  /-- How often the clock was read. -/
  readings : Nat := 0
  /-- How many identifiers were given out. -/
  identifiers : Nat := 0
  /-- The addresses of the requests for repositories so far. -/
  requests : List Text := []
  /-- What the clock shows after so many readings. -/
  clock : Nat → Moment := Moment.reading
  /-- The identifier that so many others precede. -/
  identity : Nat → Text := fun earlier => Archives.reference (earlier + 1)

namespace Session

/-- Read the clock. -/
def now (s : Session) : Moment × Session :=
  (s.clock s.readings, { s with readings := s.readings + 1 })

/-- Give out an identifier. -/
def identifier (s : Session) : Text × Session :=
  (s.identity s.identifiers, { s with identifiers := s.identifiers + 1 })

/-- Send requests. -/
def send (s : Session) (requests : List Text) : Session :=
  { s with requests := s.requests ++ requests }

end Session

/-- How runs work. -/
structure Desk where
  settings : Settings
  /-- The text-transform service, if there is one and it can be called. -/
  assistant : Option Assistant := none
  host : Host := fun _ _ => .nothing
  /-- The folder of the archives. -/
  archives : Text
  /-- The file of the ledger. -/
  ledger : Text
  /-- What keeps archives from being stored. -/
  archiveFault : Option Text := none
  /-- Whether something keeps records from being added. -/
  ledgerFault : Bool := false

namespace Desk

/-- The desk whose archives and ledger are in the data folder of its settings. -/
def ofSettings (s : Settings) : Desk where
  settings := s
  archives := FilePath.inside s.dataFolder "archives"
  ledger := FilePath.inside s.dataFolder "ledger.jsonl"

/-- The hosting service as it answers in a session. -/
def hostIn (k : Desk) (s : Session) : Host := fun earlier address =>
  k.host (s.requests ++ earlier) address

/-- The archive with a reference. -/
def archive? (k : Desk) (s : Session) (ref : Text) : Option Bytes :=
  Archives.get? s.disk k.archives ref

/-- Store an archive under a new reference, or say why it cannot be stored.  An identifier is
taken once the folder is there. -/
def store (k : Desk) (s : Session) (archive : Bytes) : Except Text Text × Session :=
  match k.archiveFault with
  | some why => (.error why, s)
  | none =>
    match s.disk.makeFolders k.archives with
    | .error e => (.error e.message, s)
    | .ok _ =>
      let (ref, s) := s.identifier
      match Archives.put s.disk k.archives ref archive with
      | .error e => (.error e.message, s)
      | .ok disk => (.ok ref, { s with disk })

/-- Add a record to the ledger; tells whether it could be added. -/
def record (k : Desk) (s : Session) (r : Record) : Bool × Session :=
  if k.ledgerFault then (false, s)
  else
    match Ledger.insert s.disk k.ledger r with
    | .ok disk => (true, { s with disk })
    | .error _ => (false, s)

end Desk

end Decouple
