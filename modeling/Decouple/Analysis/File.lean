import Decouple.Analysis.Issue
import Decouple.FileRole
import Decouple.Manifest
import Decouple.Signature.Finding
import Decouple.Snapshot

/-!
# Analysis of one file

What one file shows: signals, verdicts on its dependencies and addresses of platform hosts.  Only
the path, the content and the settings count.
-/

namespace Decouple

/-- Whether a dependency can stay. -/
inductive Verdict where
  | compatible
  | incompatible
  | unknown
  deriving DecidableEq

/-- The name of a verdict. -/
def Verdict.name : Verdict → Text
  | compatible => "compatible"
  | incompatible => "incompatible"
  | unknown => "unknown"

/-- A direct dependency with its verdict. -/
structure DependencyFinding where
  name : Text
  version : Option Text
  verdict : Verdict
  manifest : Text
  deriving DecidableEq

/-- What one file shows. -/
structure FileAnalysis where
  signals : List Signal := []
  dependencies : List DependencyFinding := []
  addresses : List Text := []
  /-- The platform whose own file it is. -/
  removedFor : Option Platform := none

/-- Why a file cannot be analysed. -/
inductive FileFault where
  /-- A comment marker has no platform. -/
  | marker (e : Signature.MarkerError)
  /-- Values of a `package.json` nest too deep. -/
  | tooDeep (holder : Json.Holder)
  deriving DecidableEq

/-- A fault in words. -/
def FileFault.message : FileFault → Text
  | marker e => e.message
  | tooDeep holder => holder.tooDeep

namespace FileAnalysis

open Signature

/-! ## Manifests -/

/-- The line of the first occurrence of a name in double quotes. -/
def quotedNameLine? (t name : Text) : Option Nat :=
  (Text.find? ("\"" ++ name ++ "\"") t).map (Text.lineAt t)

/-- The verdict on a dependency. -/
def verdict (owner : Option Platform) (e : ManifestEntry) : Verdict :=
  if owner.isSome then .incompatible
  else if e.source = .registry then .compatible
  else .unknown

/-- The signal of a dependency that a platform owns. -/
def dependencySignal (path t : Text) (e : ManifestEntry) (p : Platform) : Signal where
  rule := .dependency
  path := path
  description := "Dependency " ++ e.name ++ " belongs to " ++ p.name
  platform := p.name
  line := e.line.or (quotedNameLine? t e.name)
  suggestion := "Remove " ++ e.name ++ " from " ++ fileName path

/-- What entries of a manifest show; `owner?` is the platform of a package. -/
def ofEntries (owner? : Text → Option Platform) (path t : Text) (es : List ManifestEntry) :
    FileAnalysis where
  signals := es.filterMap fun e => (owner? e.name).map (dependencySignal path t e)
  dependencies := es.map fun e => ⟨e.name, e.spec, verdict (owner? e.name) e, path⟩

/-- What a manifest shows; one that is malformed shows nothing. -/
def ofManifest (s : Settings) (path t : Text) : Except FileFault FileAnalysis :=
  if Text.lowerCase (fileName path) = ("package.json" : Text) then
    match PackageJson.entries t with
    | .ok es => .ok (ofEntries s.packageOwner? path t es)
    | .error e => e.tooDeep?.elim (.ok {}) fun holder => .error (.tooDeep holder)
  else
    match RequirementsFile.entries t with
    | .ok es => .ok (ofEntries (fun name => s.packageOwner? (PackageName.normal name)) path t es)
    | .error _ => .ok {}

/-! ## Code -/

/-- The signal of an import. -/
def importSignal (s : Settings) (path : Text) (f : Finding) : Signal where
  rule := .importStatement
  path := path
  description := "Import of " ++ f.text ++ " (" ++ f.platform.name ++ " SDK)"
  platform := f.platform.name
  line := some f.line
  suggestion :=
    match (s.rewriteOf? f.text).filter (!·.isEmpty) with
    | some target => "Import " ++ target ++ " instead of " ++ f.text
    | none => "Remove imports of " ++ f.text

/-- The signal of an address. -/
def addressSignal (path : Text) (f : Finding) : Signal where
  rule := .address
  path := path
  description := "Asset served from " ++ f.platform.name ++ " host " ++ Url.host f.text
  platform := f.platform.name
  line := some f.line
  suggestion := "Self-host or remove assets loaded from " ++ Url.host f.text

/-- The signal of a data attribute. -/
def attributeSignal (path : Text) (f : Finding) : Signal where
  rule := .dataAttribute
  path := path
  description := "Platform data attribute " ++ Text.beforeFirst '=' f.text
  platform := f.platform.name
  line := some f.line
  suggestion := "Strip platform tagging data attributes"

/-- The signal of a comment marker. -/
def markerSignal (path : Text) (f : Finding) : Signal where
  rule := .comment
  path := path
  description := "Platform comment marker"
  platform := f.platform.name
  line := some f.line
  suggestion := "Delete platform comment markers"

/-- The signal of a call of a platform's plugin. -/
def pluginSignal (path t specifier name : Text) (p : Platform) (m : Match) : Signal where
  rule := .plugin
  path := path
  description := "Non-standard build plugin " ++ name ++ "() from " ++ specifier
  platform := p.name
  line := some (Text.lineAt t m.offset)
  suggestion := "Drop the " ++ name ++ "() plugin from the build configuration"

/-- The calls of names that imports of platform modules and plugins bind. -/
def pluginSignals (s : Settings) (path t : Text) : List Signal :=
  (boundImports t).flatMap fun (specifier, names) =>
    match (s.specifierOwner? specifier).or (s.pluginOwner? specifier) with
    | none => []
    | some p => names.flatMap fun name =>
      ((call name).findAll t).map (pluginSignal path t specifier name p)

/-- The signal of a tag that names a platform. -/
def tagSignal (path t : Text) (p : Platform) (m : Match) : Signal where
  rule := .tag
  path := path
  description := "Markup tag naming " ++ p.name
  platform := p.name
  line := some (Text.lineAt t (inkOffset m))
  suggestion := "Remove platform meta and script tags from HTML entry points"

/-- Tags that name a platform otherwise than by an address; `inspected` is what of a tag may. -/
def tagSignalsOf (s : Settings) (path t : Text) (pattern : Pattern) (inspected : Text → Text) :
    List Signal :=
  (pattern.findAll t).filterMap fun m =>
    if (webAddresses m.text).any fun a => (addressOwner? s a).isSome then none
    else (tagOwner? s (inspected m.text)).map fun p => tagSignal path t p m

/-- Scripts, links and metadata that name a platform otherwise than by an address. -/
def tagSignals (s : Settings) (path t : Text) : List Signal :=
  tagSignalsOf s path t scriptTag openingOf ++ tagSignalsOf s path t linkTag id ++
    tagSignalsOf s path t metaTag id

/-- What code shows. -/
def ofCode (s : Settings) (path t : Text) (role : FileRole) : Except MarkerError FileAnalysis :=
  (findMarkers s t).map fun markers =>
    { signals :=
        (findImports s t).map (importSignal s path) ++
          (findAddresses s t).map (addressSignal path) ++
          (if role = .bundlerConfig then pluginSignals s path t else []) ++
          (if role = .entryHtml then tagSignals s path t else []) ++
          (findAttributes s t).map (attributeSignal path) ++
          markers.map (markerSignal path)
      addresses := (findAddresses s t).map (·.text) }

/-- What a text file shows. -/
def ofText (s : Settings) (path t : Text) : Except FileFault FileAnalysis :=
  match FileRole.ofPath path with
  | .manifest => ofManifest s path t
  | .other => .ok {}
  | role => (ofCode s path t role).mapError .marker

/-- What a file shows: of a platform's own file only that. -/
def ofFile (s : Settings) (f : File) : Except FileFault FileAnalysis :=
  match s.pathOwner? f.path with
  | some p => .ok { removedFor := some p }
  | none =>
    match f.content with
    | .bytes _ => .ok {}
    | .text t => ofText s f.path t

end FileAnalysis

end Decouple
