import Decouple.Pattern.Scan
import Decouple.Settings
import Decouple.Signature.Import
import Decouple.Signature.Markup

/-!
# Findings

Where a text shows that it comes from a platform.  Each finding has its text, its line and its
platform; findings of one kind come in the order of the text.
-/

namespace Decouple

open CodePoint (is isIn isNotIn isIndent isBlank)
open Pattern

/-!
## Comment markers

A platform marks code by a comment whose first word is one of the platform's keywords after an
at-sign.  The longest keyword is tried first.  Letters match in either case, and a keyword is
looked up by its lower case.
-/

namespace Signature

/-- The keywords of all platforms in lower case, each with the first platform that has it. -/
def keywordOwners (platforms : List Platform) : List (Text × Platform) :=
  platforms.flatMap fun p => p.keywords.map fun word => (Text.lowerCase word, p)

/-- The keywords, each once, longest first. -/
def keywords (platforms : List Platform) : List Text :=
  Sorting.sort (fun a b => b.length ≤ a.length)
    (Text.distinct ((keywordOwners platforms).map Prod.fst))

/-- A comment opened by `opening`, with a keyword after an at-sign, and closed by `closing`. -/
def markerComment (words : List Text) (opening closing : Pattern) : Pattern :=
  sequence [
    opening, one (is '@'), part .keyword (choice (words.map literalAnyCase)), wordEdge, closing]

/-- A comment with a marker: to the end of the line, in slashes and stars, or in markup. -/
def marked (words : List Text) : Pattern :=
  choice [
    markerComment words (sequence [literal "//", indent]) (any (isNotIn "\n")),
    markerComment words (sequence [literal "/*", blanks])
      (sequence [many (fun _ => true) 0 .lazy, literal "*/"]),
    markerComment words (sequence [literal "<!--", blanks])
      (sequence [many (fun _ => true) 0 .lazy, literal "-->"])]

/-- A comment with a marker and the spaces before it; alone on its line it takes the line with
it.  A comment that starts within those spaces starts before them too, so they are tried once. -/
def commentMarker (words : List Text) : Pattern :=
  choice [
    sequence [lineStart, indent, marked words, indent, choice [lineBreak, textEnd]],
    sequence [notAfter isIndent, indent, marked words]]

/-- Why a marker has no platform. -/
inductive MarkerError where
  /-- Its keyword is empty. -/
  | emptyKeyword
  /-- Its keyword is spelled with a letter that has another lower case. -/
  | unknownKeyword (keyword : Text)
  deriving DecidableEq

/-- An error in words; for an empty keyword there are none. -/
def MarkerError.message : MarkerError → Text
  | .emptyKeyword => []
  | .unknownKeyword keyword => keyword.quoted

/-- The platform of a keyword as it is spelled in a marker. -/
def keywordOwner (platforms : List Platform) (keyword : Text) : Except MarkerError Platform :=
  if keyword.isEmpty then .error .emptyKeyword
  else
    match (keywordOwners platforms).lookup (Text.lowerCase keyword) with
    | some p => .ok p
    | none => .error (.unknownKeyword (Text.lowerCase keyword))

end Signature

/-! ## Findings of all kinds -/

/-- A place of a text that belongs to a platform. -/
structure Finding where
  text : Text
  line : Nat
  platform : Platform

namespace Signature

/-- The platform of a web address. -/
def addressOwner? (s : Settings) (address : Text) : Option Platform :=
  s.hostOwner? (Url.host address)

/-- An import of a platform module, with the offset of its specifier. -/
def importFinding? (s : Settings) (t : Text) (m : Match) : Option (Nat × Finding) :=
  (s.specifierOwner? (m.textOf .spec)).map fun p =>
    (m.offsetOf .spec, ⟨m.textOf .spec, Text.lineAt t (m.offsetOf .spec), p⟩)

/-- Findings by offset, the first of those with one offset kept. -/
def firstPerOffset (fs : List (Nat × Finding)) : List (Nat × Finding) :=
  fs.foldl (fun kept f => if kept.any (·.1 = f.1) then kept else kept ++ [f]) []

/-- The imports of platform modules. -/
def findImports (s : Settings) (t : Text) : List Finding :=
  let found := [importStatement, requireStatement, dynamicImport].flatMap fun pattern =>
    (pattern.findAll t).filterMap (importFinding? s t)
  (Sorting.sort (fun a b => a.1 ≤ b.1) (firstPerOffset found)).map Prod.snd

/-- The web address of a match, without punctuation that ends a sentence. -/
def addressOf (m : Match) : Text := Text.trimEndOf (isIn ".,;") m.text

/-- The addresses of platform hosts. -/
def findAddresses (s : Settings) (t : Text) : List Finding :=
  (webAddress.findAll t).filterMap fun m =>
    (addressOwner? s (addressOf m)).map fun p => ⟨addressOf m, Text.lineAt t m.offset, p⟩

/-- The platform of a data attribute. -/
def attributeMatchOwner? (s : Settings) (m : Match) : Option Platform :=
  s.attributeOwner? (m.textOf .attribute)

/-- The data attributes of platforms. -/
def findAttributes (s : Settings) (t : Text) : List Finding :=
  (dataAttribute.findAll t).filterMap fun m =>
    (attributeMatchOwner? s m).map fun p =>
      ⟨Text.trim m.text, Text.lineAt t (m.offsetOf .attribute), p⟩

/-- The offset of the first code point of a match that is no white space. -/
def inkOffset (m : Match) : Nat := m.offset + (m.text.takeWhile isBlank).length

/-- The comment markers of platforms, if each of them has a platform. -/
def findMarkers (s : Settings) (t : Text) : Except MarkerError (List Finding) :=
  ((commentMarker (keywords s.platforms)).findAll t).mapM fun m =>
    (keywordOwner s.platforms (m.textOf .keyword)).map fun p =>
      ⟨Text.trim m.text, Text.lineAt t (inkOffset m), p⟩

/-- The least length of a keyword that may name a platform in a tag. -/
def minTagKeyword : Nat := 4

/-- The values of a tag that name a platform: its name and its longer keywords. -/
def valueOwners (platforms : List Platform) : List (Text × Platform) :=
  platforms.flatMap fun p =>
    (Text.lowerCase p.name, p) ::
      (p.keywords.filter fun word => minTagKeyword ≤ word.length).map fun word =>
        (Text.lowerCase word, p)

/-- The platform that a tag names, by an address of its host or by its name or content. -/
def tagOwner? (s : Settings) (tag : Text) : Option Platform :=
  ((webAddresses tag).findSome? (addressOwner? s)).or
    ((namesAndContents tag).findSome? fun value =>
      (valueOwners s.platforms).lookup (Text.lowerCase (Text.trim value)))

end Signature

end Decouple
