import Decouple.Base64
import Decouple.FileRole
import Decouple.Http.Reply
import Decouple.Repository
import Decouple.Retrieval.Basic

/-!
# Fetching repositories

Files are fetched one by one, each with several attempts and growing waits between them.  An
attempt asks for the content, and for the blob when access to the content is refused or the reply
has no content in it.  A file whose attempts all fail is skipped.  The files of a repository are
taken in batches, with a report of progress after each.
-/

namespace Decouple

/-!
## Listings of repositories

The hosting service lists the files of a repository at a reference in one reply.  The wanted files
are those of its items that are blobs with a relevant path, in the order of the listing.
-/

/-- A file that the hosting service lists: its path, and what it gives as its hash. -/
structure ListedFile where
  path : Text
  sha : Json

namespace Hosting

/-! ## Requests -/

/-- The authorization that a token gives. -/
def bearer? (s : Settings) : Option Text :=
  (s.retrieval.token.filter (!·.isEmpty)).map fun token => "Bearer " ++ token

/-- The authorization that a request carries; an address with a name and password has its own. -/
def authorization (s : Settings) (a : Address) : Option Text :=
  a.authorization?.orElse fun _ => bearer? s

/-- The address of a repository at the hosting service. -/
def base (s : Settings) (r : Repository) : Text :=
  s.retrieval.apiBase ++ "/repos/" ++ r.owner ++ "/" ++ r.name

/-- Where a request goes, when its headers can be sent too. -/
def sendable (s : Settings) (address : Text) (query : Option Text) :
    Except RequestFault Address := do
  let target ← Address.ofRequest address query
  match (bearer? s).bind RequestFault.notAscii? with
  | some u => .error (.header u)
  | none => .ok target

/-- The address of the listing of a repository. -/
def listingAddress (s : Settings) (r : Repository) : Except RequestFault Address := do
  let reference ← (Percent.segment r.reference).mapError .unwritable
  sendable s (base s r ++ "/git/trees/" ++ reference) (some "recursive=1")

/-- The address of the content of a file. -/
def contentAddress (s : Settings) (r : Repository) (path : Text) :
    Except RequestFault Address := do
  let path ← (Percent.path path).mapError .unwritable
  let query : Text := "ref=" ++ Percent.queryValue r.reference
  sendable s (base s r ++ "/contents/" ++ path) (some query)

/-- The address of a blob. -/
def blobAddress (s : Settings) (r : Repository) (sha : Json) : Except RequestFault Address :=
  sendable s (base s r ++ "/git/blobs/" ++ sha.asText) none

/-! ## The listing -/

/-- The wanted file that an item of a listing is. -/
def wanted? (s : Settings) (item : Json) : Option ListedFile :=
  match item.get? "type", item.get? "path" with
  | some (.string kind), some (.string path) =>
    if kind = "blob" && s.wantsPath path then some ⟨path, (item.get? "sha").getD .null⟩ else none
  | _, _ => none

/-- The failure of a listing that says nothing usable. -/
def malformed (r : Repository) : RetrievalError :=
  .ofMessage ("Malformed tree for " ++ r.label)

/-- The wanted files of a listing. -/
def wantedFiles (s : Settings) (r : Repository) (body : Json) :
    Except RetrievalError (List ListedFile) :=
  match body.get? "tree" with
  | some (.array items) => .ok (items.filterMap (wanted? s))
  | _ => .error (malformed r)

/-- The wanted files that a reply lists. -/
def readListing (s : Settings) (r : Repository) : Reply → Except RetrievalError (List ListedFile)
  | .timedOut message | .failed message =>
    .error (.ofMessage ("Cannot reach " ++ r.label ++ ": " ++ message))
  | .answered status body =>
    if status = 404 then .error (.ofMessage ("Repository or ref not found: " ++ r.label))
    else if 400 ≤ status then
      .error (.ofMessage
        ("Tree request for " ++ r.label ++ " failed with HTTP " ++ Text.ofNat status))
    else
      match Json.readBytes body with
      | .ok j => wantedFiles s r j
      | .error (.json (.tooDeep holder)) => .error (.request (.tooDeep holder))
      | .error _ => .error (malformed r)

end Hosting

/-! ## The hosting service -/

/-- A hosting service: its reply to a request, given the requests before it. -/
abbrev Host := List Text → Text → Reply

namespace Hosting

/-- The reply to a request, given the requests before it. -/
def ask (host : Host) (earlier : List Text) (a : Address) : Except RequestFault Reply :=
  (host earlier a.toText).takenFrom a

/-! ## One attempt -/

/-- What an attempt to get a file comes to. -/
structure Attempt where
  /-- The content, nothing when the attempt failed, or the fault that no attempt can mend. -/
  outcome : Except RequestFault (Option Content)
  /-- The requests that were sent. -/
  requests : List Text

/-- An attempt that sent some requests and failed. -/
def Attempt.failed (requests : List Text) : Attempt := ⟨.ok none, requests⟩

/-- A request that comes to nothing: a final fault ends everything. -/
def Attempt.faulty (requests : List Text) (f : RequestFault) : Attempt :=
  if f.isFinal then ⟨.error f, requests⟩ else failed requests

/-- The content that a reply writes in base 64. -/
def inline? (body : Json) : Option Text :=
  match body.get? "encoding", body.get? "content" with
  | some (.string encoding), some (.string content) =>
    if encoding = "base64" then some content else none
  | _, _ => none

/-- The content that a base 64 text writes. -/
def decoded? (t : Text) : Option Content := (Base64.read? t).map Content.ofBytes

/-- Read the reply for a blob. -/
def readBlob (reply : Reply) : Except RequestFault (Option Content) :=
  reply.json?.map fun j => (j.bind inline?).bind decoded?

/-- Ask for the blob of a file. -/
def attemptBlob (host : Host) (s : Settings) (r : Repository) (earlier sent : List Text)
    (f : ListedFile) : Attempt :=
  if !f.sha.isTruthy then .failed sent
  else
    match blobAddress s r f.sha with
    | .error fault => .faulty sent fault
    | .ok address =>
      let requests := sent ++ [address.toText]
      match ask host (earlier ++ sent) address with
      | .error fault => .faulty requests fault
      | .ok reply => ⟨readBlob reply, requests⟩

/-- What the reply for a content says to do next. -/
inductive ContentStep where
  | found (c : Content)
  | blob
  | fail
  /-- Nothing: the reply ends everything. -/
  | stop (f : RequestFault)
  deriving DecidableEq

/-- Read the reply for a content. -/
def readContent (reply : Reply) : ContentStep :=
  match reply with
  | .answered 403 _ => .blob
  | reply =>
    match reply.json? with
    | .error f => .stop f
    | .ok none => .fail
    | .ok (some j) =>
      match inline? j with
      | none => .blob
      | some t =>
        match decoded? t with
        | some c => .found c
        | none => .fail

/-- Try to get a file. -/
def attempt (host : Host) (s : Settings) (r : Repository) (earlier : List Text)
    (f : ListedFile) : Attempt :=
  match contentAddress s r f.path with
  | .error fault => .faulty [] fault
  | .ok address =>
    let requests := [address.toText]
    match ask host earlier address with
    | .error fault => .faulty requests fault
    | .ok reply =>
      match readContent reply with
      | .found c => ⟨.ok (some c), requests⟩
      | .blob => attemptBlob host s r earlier requests f
      | .fail => .failed requests
      | .stop f => ⟨.error f, requests⟩

/-! ## All attempts -/

/-- What fetching a file comes to. -/
structure FileFetch where
  outcome : Except RequestFault (Option Content)
  requests : List Text
  /-- The waits between attempts. -/
  sleeps : List Delay

/-- Try to get a file up to `left` more times; `number` counts the attempts from this one on. -/
def attemptsFrom (host : Host) (s : Settings) (r : Repository) (f : ListedFile) :
    Nat → Nat → List Text → FileFetch
  | 0, _, _ => ⟨.ok none, [], []⟩
  | left + 1, number, earlier =>
    let a := attempt host s r earlier f
    match a.outcome with
    | .error fault => ⟨.error fault, a.requests, []⟩
    | .ok (some c) => ⟨.ok (some c), a.requests, []⟩
    | .ok none =>
      if left = 0 then ⟨.ok none, a.requests, []⟩
      else
        let later := attemptsFrom host s r f left (number + 1) (earlier ++ a.requests)
        ⟨later.outcome, a.requests ++ later.requests,
          s.retrieval.baseDelay.times number :: later.sleeps⟩

/-- How often a file is tried. -/
def maxAttempts (s : Settings) : Nat := max 1 s.retrieval.maxAttempts.toNat

/-- Fetch a file. -/
def fetchFile (host : Host) (s : Settings) (r : Repository) (earlier : List Text)
    (f : ListedFile) : FileFetch :=
  attemptsFrom host s r f (maxAttempts s) 1 earlier

/-- Fetch files one after the other. -/
def fetchFiles (host : Host) (s : Settings) (r : Repository) (earlier : List Text) :
    List ListedFile → List FileFetch
  | [] => []
  | f :: rest =>
    let fetched := fetchFile host s r earlier f
    fetched :: fetchFiles host s r (earlier ++ fetched.requests) rest

/-! ## Batches -/

/-- The number of files of a batch. -/
def batchSize (s : Settings) : Nat := max 1 s.retrieval.batchSize.toNat

/-- The places in a listing of `total` files at which batches start. -/
def batchStarts (size total : Nat) : List Nat :=
  (List.range ((total + size - 1) / size)).map (· * size)

/-- The files of the batch that starts at a place. -/
def batchAt (size start : Nat) (files : List ListedFile) : List ListedFile :=
  (files.drop start).take size

/-- The files that were got. -/
def got (files : List ListedFile) (fetched : List FileFetch) : List File :=
  (files.zip fetched).filterMap fun (f, x) =>
    match x.outcome with
    | .ok (some c) => some ⟨f.path, c⟩
    | _ => none

/-- The paths of the files that were not got. -/
def notGot (files : List ListedFile) (fetched : List FileFetch) : List Text :=
  (files.zip fetched).filterMap fun (f, x) =>
    match x.outcome with
    | .ok none => some f.path
    | _ => none

/-- The first fault that ends everything. -/
def fault? (fetched : List FileFetch) : Option RequestFault :=
  fetched.findSome? fun x =>
    match x.outcome with
    | .error f => some f
    | .ok _ => none

/-- What has been gathered by some batches. -/
structure Gathered where
  files : List File := []
  skipped : List Text := []
  batches : Nat := 0
  requests : List Text
  sleeps : List Delay := []
  /-- After each batch the number of files asked for, and of those wanted. -/
  progress : List (Nat × Nat) := []

namespace Gathered

/-- Files were asked for. -/
def asked (g : Gathered) (fetched : List FileFetch) : Gathered :=
  { g with
    requests := g.requests ++ fetched.flatMap FileFetch.requests
    sleeps := g.sleeps ++ fetched.flatMap FileFetch.sleeps }

/-- A batch has come back, the one that ends at the place `stop` of `total` files. -/
def add (g : Gathered) (batch : List ListedFile) (fetched : List FileFetch) (stop total : Nat) :
    Gathered :=
  { g.asked fetched with
    files := g.files ++ got batch fetched
    skipped := g.skipped ++ notGot batch fetched
    batches := g.batches + 1
    progress := g.progress ++ [(min stop total, total)] }

end Gathered

/-! ## The repository -/

/-- What fetching a repository comes to. -/
structure Fetch where
  result : Except RetrievalError Retrieved
  /-- The addresses of the requests that were sent. -/
  requests : List Text
  sleeps : List Delay := []
  /-- After each batch the number of files asked for, and of those wanted. -/
  progress : List (Nat × Nat) := []

/-- Gather the batches that start at some places.  A fault ends everything, but all files of its
batch are asked for. -/
def fetchBatches (host : Host) (s : Settings) (r : Repository) (files : List ListedFile) :
    Gathered → List Nat → Fetch
  | g, [] =>
    { result := .ok {
        snapshot := Snapshot.ofFiles g.files
        skipped := g.skipped
        batches := g.batches
        label := r.label }
      requests := g.requests
      sleeps := g.sleeps
      progress := g.progress }
  | g, start :: starts =>
    let batch := batchAt (batchSize s) start files
    let fetched := fetchFiles host s r g.requests batch
    match fault? fetched with
    | some fault =>
      let g := g.asked fetched
      { result := .error (.request fault)
        requests := g.requests
        sleeps := g.sleeps
        progress := g.progress }
    | none =>
      fetchBatches host s r files (g.add batch fetched (start + batchSize s) files.length) starts

/-- Fetch the listed files of a repository. -/
def fetchListed (host : Host) (s : Settings) (r : Repository) (earlier : List Text)
    (files : List ListedFile) : Fetch :=
  fetchBatches host s r files { requests := earlier } (batchStarts (batchSize s) files.length)

/-- Fetch a repository. -/
def fetch (host : Host) (s : Settings) (r : Repository) : Fetch :=
  match listingAddress s r with
  | .error f => { result := .error (.request f), requests := [] }
  | .ok address =>
    let requests := [address.toText]
    match ask host [] address with
    | .error f => { result := .error (.request f), requests }
    | .ok reply =>
      match readListing s r reply with
      | .error e => { result := .error e, requests }
      | .ok files => fetchListed host s r requests files

end Hosting

end Decouple
