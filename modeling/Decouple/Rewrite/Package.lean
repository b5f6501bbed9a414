import Decouple.Json.Writer
import Decouple.Manifest
import Decouple.Rewrite.Note
import Decouple.Settings

/-!
# Rewriting manifests

Platform packages leave the dependency sections of a `package.json`, scripts that run a platform's
tools leave its scripts, and lines of platform packages leave a requirements file.
-/

namespace Decouple

open CodePoint (isIn isBlank)
open Pattern

/-- Why a file cannot be rewritten. -/
inductive RewriteFault where
  /-- A marker of a requirement cannot be written. -/
  | marker (u : Marker.Unwritable)
  /-- Values of a `package.json` nest too deep. -/
  | tooDeep (holder : Json.Holder)

/-- A fault in words. -/
def RewriteFault.message : RewriteFault → Text
  | marker u => u.message
  | tooDeep holder => holder.tooDeep

namespace Rewrite

/-- A word of a shell command: up to white space or an operator. -/
def commandWord : Pattern := many (fun c => !isBlank c && !isIn ";&|()" c) 1 .greedy

/-- The package that a word of a command names: without quotes and without a version. -/
def packageOfWord (word : Text) : Text :=
  let name := Text.trimOf (isIn "'\"") word
  if Text.startsWith name "@" then
    if 1 < Text.countOf '@' name then Text.beforeLast '@' name else name
  else Text.beforeFirst '@' name

/-- Whether a command runs a platform's package or plugin. -/
def runsPlatformTool (s : Settings) (command : Text) : Bool :=
  (commandWord.findAll command).any fun m =>
    let name := packageOfWord m.text
    !name.isEmpty && ((s.packageOwner? name).isSome || (s.pluginOwner? name).isSome)

/-- Whether a script, a member of the scripts, is to be removed. -/
def doomedScript (s : Settings) (script : Text × Json) : Bool :=
  script.2.text?.any (runsPlatformTool s)

/-- Whether a dependency, a member of a dependency section, is to be removed. -/
def doomedDependency (s : Settings) (dependency : Text × Json) : Bool :=
  (s.packageOwner? dependency.1).isSome

/-- What to remove from the member of a `package.json` with a name. -/
def doomedIn (s : Settings) (name : Text) : Text × Json → Bool :=
  if PackageJson.dependencySections.contains name then doomedDependency s
  else if name = ("scripts" : Text) then doomedScript s
  else fun _ => false

/-- A member of a `package.json` without what is to be removed from it. -/
def prunedMember (s : Settings) (member : Text × Json) : Text × Json :=
  match member with
  | (name, .object inner) => (name, .object (inner.filter fun m => !doomedIn s name m))
  | m => m

/-- The names of what is to be removed from a member of a `package.json`. -/
def doomedNames (s : Settings) (members : List (Text × Json)) (name : Text) : List Text :=
  match members.lookup name with
  | some (.object inner) => (inner.filter (doomedIn s name)).map Prod.fst
  | _ => []

/-- The notes on the members of a `package.json`: each removed dependency once, then scripts. -/
def packageNotes (s : Settings) (members : List (Text × Json)) : List Note :=
  (Text.distinct (PackageJson.dependencySections.flatMap (doomedNames s members))).map
      .dependencyRemoved ++
    (doomedNames s members "scripts").map .scriptRemoved

/-- Rewrite a `package.json` with some members. -/
def packageMembers (s : Settings) (content : Text) (members : List (Text × Json)) : Rewrite :=
  let notes := packageNotes s members
  if notes.isEmpty then ⟨content, []⟩
  else
    let written := Json.write .pretty (.object (members.map (prunedMember s)))
    ⟨if Text.endsWith content "\n" then written ++ "\n" else written, notes⟩

/-- Rewrite a `package.json`; one that is malformed stays as it is. -/
def packageJson (s : Settings) (content : Text) : Except RewriteFault Rewrite :=
  match PackageJson.read content with
  | .error e => e.tooDeep?.elim (.ok ⟨content, []⟩) fun holder => .error (.tooDeep holder)
  | .ok members => .ok (packageMembers s content members)

/-- Rewrite a requirements file. -/
def requirements (s : Settings) (content : Text) : Except Marker.Unwritable Rewrite :=
  (RequirementsFile.entries content).bind fun es =>
    let doomed := es.filter fun e => (s.packageOwner? (PackageName.normal e.name)).isSome
    if doomed.isEmpty then .ok ⟨content, []⟩
    else
      (RequirementsFile.drop content (doomed.map (·.name))).map fun (kept, removed) =>
        ⟨kept, removed.map .dependencyRemoved⟩

end Rewrite

end Decouple
