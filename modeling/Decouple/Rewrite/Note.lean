import Decouple.Pattern.Scan
import Decouple.Text.Numeral

/-!
# Notes on a rewrite

Each rule that fires leaves a note.  A rewrite without notes has left its file as it was.
-/

namespace Decouple

/-- What a rewrite did. -/
inductive Note where
  | dependencyRemoved (name : Text)
  | scriptRemoved (name : Text)
  | importRemoved (specifier : Text)
  | importRewritten (specifier target : Text)
  | pluginRemoved (name : Text)
  | scriptTagRemoved (platform : Text)
  | linkTagRemoved (platform : Text)
  | metaTagRemoved (platform : Text)
  | markersRemoved (count : Nat)
  | attributeRemoved (name : Text)
  deriving DecidableEq

namespace Note

/-- A note in words. -/
def toText : Note → Text
  | dependencyRemoved name => "Dependency removed: " ++ name
  | scriptRemoved name => "Script removed: " ++ name
  | importRemoved specifier => "Import removed: " ++ specifier
  | importRewritten specifier target => "Import rewritten: " ++ specifier ++ " -> " ++ target
  | pluginRemoved name => "Plugin removed: " ++ name
  | scriptTagRemoved platform => "Script tag removed: " ++ platform
  | linkTagRemoved platform => "Link tag removed: " ++ platform
  | metaTagRemoved platform => "Meta tag removed: " ++ platform
  | markersRemoved count => "Comment markers removed: " ++ Text.ofNat count
  | attributeRemoved name => "Data attribute removed: " ++ name

/-- The dependency that a note says was removed. -/
def dependency? : Note → Option Text
  | dependencyRemoved name => some name
  | _ => none

/-- The dependencies that notes say were removed. -/
def dependencies (notes : List Note) : List Text := notes.filterMap dependency?

end Note

/-- The new content of a file with what was done to it. -/
structure Rewrite where
  content : Text
  notes : List Note := []

namespace Rewrite

open Pattern CodePoint

/-- Whether a rule has fired. -/
def changed (r : Rewrite) : Bool := !r.notes.isEmpty

/-- A line break and at least two lines of nothing but spaces and tabs after it. -/
def blankRun : Pattern :=
  let blankLine := sequence [indent, one (is '\n')]
  sequence [one (is '\n'), blankLine, again blankLine]

/-- The text with a single blank line for each run of them. -/
def collapseBlankRuns (t : Text) : Text := blankRun.replace (fun _ => "\n\n") t

/-- The rewrite that edits amount to: nothing without notes, blank runs collapsed otherwise. -/
def finish (before : Text) (edited : Text × List Note) : Rewrite :=
  if edited.2.isEmpty then ⟨before, []⟩ else ⟨collapseBlankRuns edited.1, edited.2⟩

end Rewrite

end Decouple
