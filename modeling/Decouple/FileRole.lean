import Decouple.Pattern.Scan
import Decouple.Settings

/-!
# Roles of files

What a file is for is read off its name.  The role decides which detectors look at the file and
how it is rewritten.
-/

namespace Decouple

open CodePoint (is isIn isWord)
open Pattern

/-- What a file is for. -/
inductive FileRole where
  | manifest
  | bundlerConfig
  | entryHtml
  | source
  | other
  deriving DecidableEq

/-- The name of a file: the last component of its path. -/
def fileName (path : Text) : Text := Text.afterLast '/' path

namespace FileRole

/-- Endings of source files. -/
def sourceEndings : List Text := [".ts", ".tsx", ".js", ".jsx", ".mjs", ".cjs", ".vue", ".svelte"]

/-- Endings of markup files. -/
def htmlEndings : List Text := [".html", ".htm"]

/-- The end of a name, a line feed at it left aside. -/
def nameEnd : Pattern := sequence [optional (one (is '\n')), textEnd]

/-- Configuration files of bundlers, in lower case. -/
def bundlerConfigName : Pattern :=
  sequence [
    choice (["vite", "webpack", "next", "rollup", "astro", "svelte", "nuxt"].map
      fun tool : String => literal tool),
    literal ".config.",
    choice (["ts", "js", "mjs", "cjs", "mts"].map fun ending : String => literal ending),
    nameEnd]

/-- Requirement files, in lower case. -/
def requirementsName : Pattern :=
  sequence [
    literal "requirements",
    optional (sequence [one (isIn "-_."), many (fun c => isWord c || isIn ".-" c) 1 .greedy]),
    literal ".txt",
    nameEnd]

/-- Whether a name ends in one of some endings. -/
def endsInOneOf (endings : List Text) (name : Text) : Bool := endings.any (Text.endsWith name)

/-- The role of a file. -/
def ofPath (path : Text) : FileRole :=
  let name := Text.lowerCase (fileName path)
  if name = ("package.json" : Text) || (requirementsName.matchStart? name).isSome then manifest
  else if (bundlerConfigName.matchStart? name).isSome then bundlerConfig
  else if endsInOneOf htmlEndings name then entryHtml
  else if endsInOneOf sourceEndings name then source
  else other

end FileRole

namespace Settings

/-- Whether a file is a platform's own. -/
def removesPath (s : Settings) (path : Text) : Bool := (s.pathOwner? path).isSome

/-- Whether a file of a repository is wanted: in no excluded folder, no excluded file, and either
wanted by name, a platform's own or of a wanted ending. -/
def wantsPath (s : Settings) (path : Text) : Bool :=
  let folders := (Text.splitOn '/' path).dropLast
  let name := fileName path
  !folders.any s.retrieval.excludedFolders.contains &&
    !s.retrieval.excludedFiles.contains name &&
    (s.retrieval.filenames.contains name || s.removesPath path ||
      FileRole.endsInOneOf s.retrieval.extensions (Text.lowerCase name))

end Settings

end Decouple
