import Decouple.FileRole
import Decouple.Rewrite.Package
import Decouple.Rewrite.Source

/-!
# Rewriting a file

The role of a file picks its rewrite.  Files of no role stay as they are.
-/

namespace Decouple

namespace Rewrite

/-- Rewrite a manifest. -/
def manifest (s : Settings) (path content : Text) : Except RewriteFault Rewrite :=
  if Text.lowerCase (fileName path) = ("package.json" : Text) then packageJson s content
  else (requirements s content).mapError .marker

/-- Rewrite a file. -/
def file (s : Settings) (path content : Text) : Except RewriteFault Rewrite :=
  match FileRole.ofPath path with
  | .manifest => manifest s path content
  | .bundlerConfig => .ok (bundlerConfig s content)
  | .entryHtml => .ok (markup s content)
  | .source => .ok (source s content)
  | .other => .ok ⟨content, []⟩

end Rewrite

end Decouple
