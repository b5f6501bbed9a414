import Decouple.Base64
import Decouple.Http.HostName
import Decouple.Number.Reading

/-!
# Addresses

The address of a request is read into its parts and written back from them.  Reading brings each
part into its normal form: scheme and host in small letters, no service number that the scheme
implies, no folder that stands for itself or for the one above, and no code points that have to be
escaped.
-/

namespace Decouple

open CodePoint (isIn isNotIn)

/-- An address in its parts, each in its normal form. -/
structure Address where
  scheme : Text := []
  /-- The name and password in front of the host. -/
  userInfo : Text := []
  host : Text := []
  /-- The number of the service at the host. -/
  service : Option Int := none
  path : Text
  query : Option Text := none
  fragment : Option Text := none
  deriving DecidableEq

namespace Address

/-! ## Code points -/

/-- Printable ASCII code points, blanks included. -/
def isPlain (c : CodePoint) : Bool := 0x20 ≤ c.val && c.val < 0x7F

/-- ASCII code points that no address may hold. -/
def isControl (c : CodePoint) : Bool := c.val < 0x20 || c.val = 0x7F

/-- Code points that a name and password keep. -/
def isUserInfo (c : CodePoint) : Bool := isPlain c && !isIn " \"#<>?`\x7b\x7d/;=@[\\]^|" c

/-- Code points that a path keeps. -/
def isPath (c : CodePoint) : Bool := isPlain c && !isIn " \"#<>?`\x7b\x7d" c

/-- Code points that a query keeps. -/
def isQuery (c : CodePoint) : Bool := isPlain c && !isIn " \"#<>" c

/-- Code points that a fragment keeps. -/
def isFragment (c : CodePoint) : Bool := isPlain c && !isIn " \"<>`" c

/-- A part with the code points escaped that it does not keep. -/
def escaped (keep : CodePoint → Bool) (t : Text) : Except RequestFault Text :=
  match List.find? CodePoint.isSurrogate t with
  | some c => .error (.unwritable ⟨0, c, 1⟩)
  | none => .ok (Percent.escape keep t)

/-! ## Paths -/

/-- The parts of a path that are left after one more. -/
def addPart (parts : List Text) (part : Text) : List Text :=
  if part = "." then parts
  else if part = ".." then (if parts = [] || parts = [[]] then parts else parts.dropLast)
  else parts ++ [part]

/-- A path without parts that stand for their folder or the one above. -/
def plainPath (path : Text) : Text :=
  let parts := Text.splitOn '/' path
  if parts.contains "." || parts.contains ".." then Text.join "/" (parts.foldl addPart [])
  else path

/-- What a path without scheme and host in front of it may not start with. -/
def refusedStart? (path : Text) : Option Text :=
  (["//", ":"] : List Text).find? (Text.startsWith path)

/-! ## Service numbers -/

/-- The service number that a scheme implies. -/
def impliedService (scheme : Text) : Option Int :=
  ([("ftp", 21), ("http", 80), ("https", 443), ("ws", 80), ("wss", 443)] :
    List (Text × Int)).lookup scheme

/-- A service number, unless the scheme implies it. -/
def serviceFor (scheme : Text) (n : Int) : Option Int :=
  if impliedService scheme = some n then none else some n

/-- The service number that a text means, unless the scheme implies it. -/
def readService (scheme t : Text) : Except AddressFault (Option Int) :=
  if t.isEmpty then .ok none
  else
    match Reading.integer t with
    | .ok n => .ok (serviceFor scheme n)
    | .error _ => .error (.service t)

/-! ## Cutting an address -/

/-- The scheme of an address, and what follows its colon. -/
def cutScheme (t : Text) : Text × Text :=
  match Text.cut ':' t with
  | (scheme, some rest) =>
    if scheme.all Url.isSchemeCodePoint && scheme.head?.all CodePoint.isLetter then (scheme, rest)
    else ([], t)
  | (_, none) => ([], t)

/-- What stands behind two slashes up to the path, and what follows it. -/
def cutAuthority (t : Text) : Text × Text :=
  match Text.dropStart? "//" t with
  | some rest => (rest.takeWhile (isNotIn "/?#"), rest.dropWhile (isNotIn "/?#"))
  | none => ([], t)

/-- The name and password in front of the last at sign, and what follows it. -/
def cutUserInfo (authority : Text) : Text × Text :=
  if authority.contains '@' then
    (Text.beforeLast '@' authority, Text.afterLast '@' authority)
  else ([], authority)

/-- A host in brackets, or up to a colon, and the service number behind it. -/
def cutService (t : Text) : Text × Text :=
  let host : Text :=
    if t.head? = some '[' && t.contains ']' then Text.beforeLast ']' t ++ "]"
    else Text.beforeFirst ':' t
  let rest := t.drop host.length
  (host, (Text.dropStart? ":" rest).getD rest)

/-- Path, query and fragment. -/
def cutPath (t : Text) : Text × Option Text × Option Text :=
  let (rest, fragment) := Text.cut '#' t
  let (path, query) := Text.cut '?' rest
  (path, query, fragment)

/-! ## Reading -/

/-- The most code points that an address may have. -/
def maxLength : Nat := 65536

/-- Why a text is not even looked at as an address. -/
def unreadable? (t : Text) : Option AddressFault :=
  if maxLength < t.length then some .tooLong
  else (t.zipIdx.find? fun (c, _) => isControl c).map fun (c, i) => .control c i

/-- The path of an address, `alone` when there is neither scheme nor host. -/
def readPath (alone : Bool) (path : Text) : Except RequestFault Text :=
  if alone then
    match refusedStart? path with
    | some start => .error (.address (.path start))
    | none => escaped isPath path
  else escaped isPath (plainPath path)

/-- The address that a text means. -/
def read (t : Text) : Except RequestFault Address :=
  match unreadable? t with
  | some f => .error (.address f)
  | none => do
    let (scheme, rest) := cutScheme t
    let (authority, rest) := cutAuthority rest
    let (path, query, fragment) := cutPath rest
    let (userInfo, place) := cutUserInfo authority
    let (host, service) := cutService place
    let userInfo ← escaped isUserInfo userInfo
    let host ← (HostName.read host).mapError .address
    let service ← (readService scheme service).mapError .address
    let alone := scheme.isEmpty && userInfo.isEmpty && host.isEmpty && service.isNone
    let path ← readPath alone path
    let query ← query.mapM (escaped isQuery)
    let fragment ← fragment.mapM (escaped isFragment)
    .ok { scheme := Text.lowerCase scheme, userInfo, host, service, path, query, fragment }

/-! ## Writing -/

/-- A part that is left out with its mark when it is empty. -/
def before (part mark : Text) : Text := if part.isEmpty then [] else part ++ mark

/-- A part that is there with its mark in front of it, or not at all. -/
def behind (mark : Text) : Option Text → Text
  | some part => mark ++ part
  | none => []

/-- Host and service number with the name and password in front of them. -/
def authority (a : Address) : Text :=
  before a.userInfo "@" ++ (if a.host.contains ':' then "[" ++ a.host ++ "]" else a.host) ++
    behind ":" (a.service.map Text.ofInt)

/-- The text of an address. -/
def toText (a : Address) : Text :=
  let authority : Text := if a.authority.isEmpty then [] else "//" ++ a.authority
  before a.scheme ":" ++ authority ++ a.path ++ behind "?" a.query ++ behind "#" a.fragment

/-! ## Requests -/

/-- Whether an address says where to go. -/
def isAbsolute (a : Address) : Bool := !a.scheme.isEmpty && !a.host.isEmpty

/-- Where a request for an address goes.  Of an address that does not say so, path and query are
left, below the root. -/
def target (a : Address) : Address :=
  if a.isAbsolute then a else { path := '/' :: a.path.dropWhile (· = '/'), query := a.query }

/-- An address with another query. -/
def withQuery (a : Address) (query : Text) : Address :=
  { a with query := some query, service := a.service.bind (serviceFor a.scheme) }

/-- Where a request for the address that a text means goes, with a query if one is given. -/
def ofRequest (t : Text) (query : Option Text) : Except RequestFault Address :=
  (read t).map fun a =>
    match query with
    | some q => a.target.withQuery q
    | none => a.target

/-- The authorization that the name and password of an address give. -/
def authorization? (a : Address) : Option Text :=
  let (name, password) := Text.cut ':' a.userInfo
  let name := Percent.unescape name
  let password := Percent.unescape (password.getD [])
  if name.isEmpty && password.isEmpty then none
  else some ("Basic " ++ Base64.write (name ++ Utf8.encodeAll ":" ++ password))

end Address

end Decouple
