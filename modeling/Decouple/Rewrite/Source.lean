import Decouple.Rewrite.Note
import Decouple.Signature.Finding

/-!
# Rewriting source files, markup and bundler configurations

Imports of platform modules are led to their replacement or removed, and comment markers and data
attributes of platforms are removed.  From an HTML file the scripts, links and metadata that name a
platform go as well.  From a bundler's configuration the imports of plugins go too, and so do the
calls of the names that those imports bound.
-/

namespace Decouple

open CodePoint (is isIn isNotIn isWord isIndent)
open Pattern Signature

namespace Rewrite

/-- The text without comment markers. -/
def dropMarkers (s : Settings) (t : Text) : Text × List Note :=
  let (edited, found) :=
    (commentMarker (keywords s.platforms)).edit (fun _ => some ([], ())) t
  (edited, if found.isEmpty then [] else [.markersRemoved found.length])

/-- The text without data attributes of platforms; each attribute is noted once. -/
def dropAttributes (s : Settings) (t : Text) : Text × List Note :=
  let (edited, names) := dataAttribute.edit
    (fun m => (attributeMatchOwner? s m).map fun _ => ([], m.textOf .attribute)) t
  (edited, (Text.distinct names).map .attributeRemoved)

/-- The text without comment markers and data attributes of platforms. -/
def dropTraces (s : Settings) (t : Text) : Text × List Note :=
  andThen (dropMarkers s t) (dropAttributes s)

/-- The text of a match with another specifier. -/
def withSpecifier (target : Text) (m : Match) : Text :=
  let before := m.offsetOf .spec - m.offset
  m.text.take before ++ target ++ m.text.drop (before + (m.textOf .spec).length)

/-- Lead an import of a platform module to its replacement, or leave it out. -/
def fixImport (s : Settings) (m : Match) : Option (Text × Note) :=
  let specifier := m.textOf .spec
  if (s.specifierOwner? specifier).isNone then none
  else
    match s.rewriteOf? specifier with
    | some target => some (withSpecifier target m, .importRewritten specifier target)
    | none => some ([], .importRemoved specifier)

/-- Rewrite a source file. -/
def source (s : Settings) (content : Text) : Rewrite :=
  let imports := andThen (importStatement.edit (fixImport s) content)
    (requireStatement.edit (fixImport s))
  finish content (andThen imports (dropTraces s))

/-! ## Markup -/

/-- The platform of a script: named by its opening tag, or by an address that it holds. -/
def scriptOwner? (s : Settings) (script : Text) : Option Platform :=
  (tagOwner? s (openingOf script)).or
    ((findAddresses s (bodyOf script)).head?.map (·.platform))

/-- Leave out a match that has an owner. -/
def dropOwned (owner? : Text → Option Platform) (note : Text → Note) (m : Match) :
    Option (Text × Note) :=
  (owner? m.text).map fun p => ([], note p.name)

/-- Rewrite an HTML file. -/
def markup (s : Settings) (content : Text) : Rewrite :=
  let scripts := scriptTag.edit (dropOwned (scriptOwner? s) .scriptTagRemoved) content
  let links := andThen scripts (linkTag.edit (dropOwned (tagOwner? s) .linkTagRemoved))
  let metas := andThen links (metaTag.edit (dropOwned (tagOwner? s) .metaTagRemoved))
  finish content (andThen metas (dropTraces s))

/-! ## Bundler configurations -/

/-- Whether a module is a platform's, by its specifier or as a plugin. -/
def isPlatformModule (s : Settings) (specifier : Text) : Bool :=
  (s.specifierOwner? specifier).isSome || (s.pluginOwner? specifier).isSome

/-- The names that imports of platform modules bind. -/
def pluginNames (s : Settings) (content : Text) : List Text :=
  (boundImports content).flatMap fun (specifier, names) =>
    if isPlatformModule s specifier then names else []

/-- Leave out an import of a platform module. -/
def dropModule (s : Settings) (m : Match) : Option (Text × Note) :=
  let specifier := m.textOf .spec
  if isPlatformModule s specifier then some ([], .importRemoved specifier) else none

/-- A condition on a mode in front of a plugin. -/
def modeGuard : Pattern :=
  optional (sequence [
    many (fun c => isWord c || c = '.') 1 .greedy, blanks, literal "==", optional (one (is '=')),
    blanks, one (isIn "'\""), many isWord 1 .greedy, one (isIn "'\""), blanks, literal "&&",
    blanks])

/-- A plugin in a list of plugins, with a condition before it and a comma after it. -/
def registrationCall (name : Text) : Pattern :=
  sequence [
    modeGuard, notAfter (fun c => isIdentifier c || c = '.'), literal name, one (is '('), blanks,
    any (isNotIn "()"), one (is ')'), indent, optional (one (is ','))]

/-- A plugin in a list of plugins; alone on its line it takes the line with it. -/
def registration (name : Text) : Pattern :=
  choice [
    sequence [lineStart, indent, registrationCall name, indent, choice [lineBreak, textEnd]],
    sequence [optional (sequence [notAfter isIndent, indent]), registrationCall name]]

/-- The text without a plugin. -/
def dropPlugin (name : Text) (t : Text) : Text × List Note :=
  let (edited, found) := (registration name).edit (fun _ => some ([], ())) t
  (edited, if found.isEmpty then [] else [.pluginRemoved name])

/-- Rewrite a bundler configuration. -/
def bundlerConfig (s : Settings) (content : Text) : Rewrite :=
  let imports := andThen (importStatement.edit (dropModule s) content)
    (requireStatement.edit (dropModule s))
  finish content
    ((pluginNames s content).foldl (fun edited name => andThen edited (dropPlugin name)) imports)

end Rewrite

end Decouple
