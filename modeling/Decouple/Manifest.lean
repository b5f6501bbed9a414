import Decouple.Json.Reader
import Decouple.Requirement.Basic
import Decouple.Text.Blank
import Decouple.Text.Case
import Decouple.Text.Lines
import Decouple.Text.Parts

/-!
# Dependency manifests

The direct dependencies that a `package.json` or a requirements file declares, in the order of the
file, where each comes from, and the removal of dependencies from a requirements file.
-/

namespace Decouple

/-!
## Where a dependency comes from

The version text of a dependency says whether it is taken from the registry, from version control,
from a path, from a web address or from the workspace.
-/

/-- Where a dependency comes from. -/
inductive SourceKind where
  | registry
  | versionControl
  | path
  | url
  | workspace
  deriving DecidableEq

namespace SourceKind

/-- The name of a kind of source. -/
def name : SourceKind → Text
  | registry => "registry"
  | versionControl => "vcs"
  | path => "path"
  | url => "url"
  | workspace => "workspace"

/-- What version texts of a kind start with. -/
def starts : SourceKind → List Text
  | registry => []
  | versionControl => ["git+", "git:", "github:", "gitlab:", "bitbucket:"]
  | path => ["file:", "link:", "./", "../", "/"]
  | workspace => ["workspace:"]
  | url => ["http://", "https://"]

/-- The kind of source that a version text names. -/
def ofSpec (spec : Text) : SourceKind :=
  let spec := Text.lowerCase (Text.trim spec)
  let order := [versionControl, path, workspace, url]
  (order.find? fun kind => kind.starts.any (Text.startsWith spec)).getD registry

end SourceKind

/-! ## Declared dependencies -/

open CodePoint (is isIn isBlank)
open Pattern

/-- A declared dependency. -/
structure ManifestEntry where
  name : Text
  spec : Option Text := none
  markers : Option Text := none
  extras : Option (List Text) := none
  source : SourceKind := .registry
  /-- The member of a `package.json` that holds it. -/
  under : Option Text := none
  line : Option Nat := none

/-! ## package.json -/

namespace PackageJson

/-- The members that hold dependencies. -/
def dependencySections : List Text :=
  ["dependencies", "devDependencies", "peerDependencies", "optionalDependencies"]

/-- Why a text is no `package.json`. -/
inductive Error where
  | notJson (e : JsonError)
  | notAnObject
  deriving DecidableEq

/-- The error in words. -/
def Error.message : Error → Text
  | notJson (.malformed fault line column offset) =>
    "Invalid package.json: " ++ (JsonError.malformed fault line column offset).message
  | notJson e => e.message
  | notAnObject => "Invalid package.json: root must be an object"

/-- What nests too deep in a text, if that is its error. -/
def Error.tooDeep? : Error → Option Json.Holder
  | notJson (.tooDeep holder) => some holder
  | _ => none

/-- The members of a `package.json`. -/
def read (content : Text) : Except Error (List (Text × Json)) :=
  match Json.read content with
  | .error e => .error (.notJson e)
  | .ok (.object members) => .ok members
  | .ok _ => .error .notAnObject

/-- The dependency that a member of a section declares. -/
def entryOf (area : Text) (member : Text × Json) : ManifestEntry :=
  let spec := member.2.text?
  { name := member.1
    spec
    source := (spec.map SourceKind.ofSpec).getD .registry
    under := some area }

/-- The dependencies of some members. -/
def entriesOf (members : List (Text × Json)) : List ManifestEntry :=
  dependencySections.flatMap fun area =>
    match members.lookup area with
    | some (.object deps) => deps.map (entryOf area)
    | _ => []

/-- The dependencies that a `package.json` declares. -/
def entries (content : Text) : Except Error (List ManifestEntry) := (read content).map entriesOf

end PackageJson

/-! ## Requirements files -/

namespace RequirementsFile

/-- Lines that declare nothing: comments, options, and inclusions of other files. -/
def skipped : Pattern :=
  choice [
    one (is '#'),
    sequence [one (is '-'), one (isIn "rcf"), gap],
    literal "--"]

/-- An option that marks a dependency as editable. -/
def editable : Pattern := optional (sequence [literal "-e", gap])

/-- What references to sources outside the registry start with, by kind. -/
def references : List (Pattern × SourceKind) := [
  (sequence [editable,
    choice [literal "git", literal "hg", literal "svn", literal "bzr"], one (is '+')],
    .versionControl),
  (sequence [editable,
    choice [sequence [literal "http", optional (one (is 's'))], literal "file"], literal "://"],
    .url),
  (sequence [editable, one (is '.'), optional (one (is '.')), one (is '/')], .path)]

/-- The name that a reference gives for its package. -/
def eggName : Pattern :=
  sequence [
    literal "#egg=", part .names (many (fun c => c.isLetterOrDigit || isIn "_.-" c) 1 .greedy)]

/-- The dependency that a reference outside the registry declares. -/
def reference? (line : Nat) (text : Text) : Option ManifestEntry :=
  (references.find? fun (start, _) => (start.matchStart? text).isSome).map fun (_, source) =>
    let name :=
      match eggName.find? text with
      | some m => m.textOf .names
      | none => Text.beforeFirst '@' (Text.afterLast '/' text)
    { name, spec := some text, source, line := some line }

/-- The line without a comment at its end. -/
def withoutComment (text : Text) : Text :=
  Text.trim (Text.beforeText "\t#" (Text.beforeText " #" text))

/-- The text of a marker, if there is one. -/
def markerText : Option Marker → Except Marker.Unwritable (Option Text)
  | none => .ok none
  | some m => m.toText.map some

/-- The dependency that a requirement declares. -/
def entryOf (line : Nat) (r : Requirement) : Except Marker.Unwritable ManifestEntry :=
  (markerText r.marker).map fun markers =>
    { name := r.name
      spec := if r.specifiers.isEmpty then none else some (Specifier.listText r.specifiers)
      markers
      extras := if r.extras.isEmpty then none else some (Text.sort (Text.distinct r.extras))
      source := if r.url.isSome then .url else .registry
      line := some line }

/-- The dependency that a line declares, if it declares one; a line that is no requirement
declares none. -/
def entry? (line : Nat) (text : Text) : Except Marker.Unwritable (Option ManifestEntry) :=
  let text := Text.trim text
  if text.isEmpty || (skipped.matchStart? text).isSome then .ok none
  else
    match reference? line text with
    | some e => .ok (some e)
    | none =>
      match Requirement.ofText? (withoutComment text) with
      | none => .ok none
      | some r => (entryOf line r).map some

/-- The dependencies of lines, the first of which has number `line`. -/
def entriesFrom (line : Nat) : List Line → Except Marker.Unwritable (List ManifestEntry)
  | [] => .ok []
  | l :: rest =>
    match entry? line l.body with
    | .error e => .error e
    | .ok found => (entriesFrom (line + 1) rest).map (found.toList ++ ·)

/-- The dependencies that a requirements file declares. -/
def entries (content : Text) : Except Marker.Unwritable (List ManifestEntry) :=
  entriesFrom 1 (Text.lines content)

/-! ## Removing dependencies -/

/-- The entries of some lines whose packages are wanted. -/
def wanted (names : List Text) (es : List ManifestEntry) : List ManifestEntry :=
  let names := names.map PackageName.normal
  es.filter fun e => names.contains (PackageName.normal e.name)

/-- Lines without those of some numbers, the first line having number `line`. -/
def linesWithout (doomed : List Nat) (line : Nat) : List Line → Text
  | [] => []
  | l :: rest =>
    (if doomed.contains line then [] else l.whole) ++ linesWithout doomed (line + 1) rest

/-- The file without the lines that declare some packages, and the names on those lines. -/
def drop (content : Text) (names : List Text) : Except Marker.Unwritable (Text × List Text) :=
  (entries content).map fun es =>
    let doomed := wanted names es
    if doomed.isEmpty then (content, [])
    else
      (linesWithout (doomed.filterMap (·.line)) 1 (Text.lines content), doomed.map (·.name))

end RequirementsFile

end Decouple
