import Decouple.FilePath
import Decouple.Repository
import Decouple.Text.Case

/-!
# Names of projects

A project without a given name takes one from its source.  The archive of a project has one folder
at its top, whose name is made of the project's name.
-/

namespace Decouple

namespace ProjectName

/-- Code points that the name of a folder keeps. -/
def isPlain (c : CodePoint) : Bool := c.isLetterOrDigit || c = '.' || c = '_' || c = '-'

/-- The text with each run of other code points replaced by a hyphen. -/
def hyphenated : Text → Text
  | [] => []
  | c :: rest =>
    if isPlain c then c :: hyphenated rest
    else if rest.head?.any fun d => !isPlain d then hyphenated rest
    else '-' :: hyphenated rest

/-- Code points that a folder's name does not start or end with. -/
def isEdge (c : CodePoint) : Bool := c = '-' || c = '.'

/-- The name of the folder at the top of a project's archive. -/
def folder (name : Text) : Text :=
  let kept := Text.trimOf isEdge (hyphenated name)
  if kept.isEmpty then "project" else kept

/-- Whether a source names an archive file by its ending. -/
def namesArchive (source : Text) : Bool := Text.endsWith (Text.lowerCase source) ".zip"

/-- The name of a project that is read from a file. -/
def ofPath (path : Text) : Text :=
  let stem := FilePath.stem path
  if stem.isEmpty then "project" else stem

/-- The name of a project that is read from a source. -/
def ofSource (source : Text) : Text :=
  if namesArchive source then ofPath source
  else
    match Repository.mention? source with
    | some m => (Repository.ofMention m none).name
    | none => "project"

end ProjectName

end Decouple
