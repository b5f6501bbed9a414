import Decouple.Pattern.Scan
import Decouple.Requirement.Marker
import Decouple.Text.Numeral
import Decouple.Text.Parts

/-!
# Requirements

A requirement names a package, possibly with extras, and says either which versions will do or at
which address it is found; a marker may say when it applies.
-/

namespace Decouple

open CodePoint (is isIn isDigit isIndent)
open Pattern

/-!
## Versions and version specifiers

A version has an optional epoch, a release, and optional pre-, post-, development and local parts.
A specifier is an operator with a version; which parts the version may have depends on the
operator.  Two specifiers are the same when operator and version agree up to the spelling of the
version and, but for the compatible operator, up to zeros at the end of the release.
-/

namespace Version

/-- A part of a version with a separator before it. -/
def separator : Pattern := optional (one (isIn "-_."))

/-- Decimal digits, at least one. -/
def number : Pattern := many isDigit 1 .greedy

/-- Words of either case, the first that fits. -/
def wordOf (words : List String) : Pattern := choice (words.map fun w : String => literalAnyCase w)

/-- An optional `v`, the epoch and the release with at least so many points. -/
def start (points : Nat) : Pattern :=
  sequence [
    optional (one (CodePoint.sameLetter 'v')),
    optional (sequence [part .epoch number, one (is '!')]),
    part .release (sequence [
      number,
      if points = 0 then optional (again (sequence [one (is '.'), number]))
      else again (sequence [one (is '.'), number])])]

/-- A pre-release: its stage and number. -/
def preRelease : Pattern :=
  optional (sequence [
    separator,
    part .stage (wordOf ["alpha", "beta", "preview", "pre", "a", "b", "c", "rc"]), separator,
    part .stageNumber (any isDigit)])

/-- A post-release: its number after a hyphen, or a word and an optional number. -/
def postRelease : Pattern :=
  optional (choice [
    sequence [one (is '-'), part .postRelease number],
    sequence [
      separator, wordOf ["post", "rev", "r"], separator, part .postRelease (any isDigit)]])

/-- A development release. -/
def devRelease : Pattern :=
  optional (sequence [separator, wordOf ["dev"], separator, part .devRelease (any isDigit)])

/-- Letters and digits of a local version. -/
def localWord : Pattern :=
  many (fun c => c.isLetterOrDigit) 1 .greedy

/-- A local version. -/
def localVersion : Pattern :=
  optional (sequence [
    one (is '+'),
    part .localVersion
      (sequence [localWord, optional (again (sequence [one (isIn "-_."), localWord]))])])

/-- A version without a wildcard. -/
def plain : Pattern := sequence [start 0, preRelease, postRelease, devRelease, localVersion]

/-! ## The canonical spelling -/

/-- The stage of a pre-release in its short spelling. -/
def shortStage (word : Text) : Text :=
  let word := word.map CodePoint.lower
  if word = ("alpha" : Text) then "a"
  else if word = ("beta" : Text) then "b"
  else if word = ("c" : Text) || word = ("pre" : Text) || word = ("preview" : Text) then "rc"
  else word

/-- A numeral without zeros before it. -/
def plainNumber (digits : Text) : Text := Text.ofNat (Text.decimalValue digits)

/-- The numbers of a release. -/
def releaseNumbers (release : Text) : List Text := (Text.splitOn '.' release).map plainNumber

/-- Numbers without the zeros at their end; one number is always kept. -/
def withoutEndZeros (numbers : List Text) : List Text :=
  match (numbers.reverse.dropWhile (· = Text.zeros 1)).reverse with
  | [] => numbers.take 1
  | kept => kept

/-- The words of a local version, in lower case and without zeros before numbers. -/
def localWords (t : Text) : List Text :=
  (Text.splitWhere (isIn "-_.") t).map fun word =>
    if word.all isDigit then plainNumber word else word.map CodePoint.lower

/-- The canonical spelling of a version, with or without the zeros at the end of its release. -/
def canonical (keepZeros : Bool) (version : Text) : Text :=
  match plain.matchWhole? version with
  | none => version
  | some m =>
    let numbers := releaseNumbers (m.textOf .release)
    let shown (label : Label) (before : Text) (value : Text → Text) : Text :=
      match m.part? label with
      | none => []
      | some p => before ++ value p.text
    let epoch := plainNumber (m.textOf .epoch)
    let start : Text := if epoch = Text.zeros 1 then [] else epoch ++ "!"
    start ++ Text.join "." (if keepZeros then numbers else withoutEndZeros numbers) ++
      shown .stage [] shortStage ++ shown .stageNumber [] plainNumber ++
      shown .postRelease ".post" plainNumber ++ shown .devRelease ".dev" plainNumber ++
      shown .localVersion "+" fun t => Text.join "." (localWords t)

end Version

/-- An operator with a version, as they were written. -/
structure Specifier where
  operator : Text
  version : Text
  deriving DecidableEq

namespace Specifier

/-- A specifier with the arbitrary operator: any text up to white space, `;` or `)`. -/
def arbitrary : Pattern :=
  sequence [
    literal "===", blanks, any fun c => !c.isBlank && c ≠ ';' && c ≠ ')']

/-- A specifier with an equality operator: wildcards and local versions are allowed. -/
def equality : Pattern :=
  sequence [
    choice [literal "==", literal "!="], blanks, Version.start 0,
    optional (choice [
      literal ".*",
      sequence [Version.preRelease, Version.postRelease, Version.devRelease,
        Version.localVersion]])]

/-- A specifier with the compatible operator: the release has two numbers at least. -/
def compatible : Pattern :=
  sequence [
    literal "~=", blanks, Version.start 1, Version.preRelease, Version.postRelease,
    Version.devRelease]

/-- A specifier with an ordering operator. -/
def ordering : Pattern :=
  sequence [
    choice [literal "<=", literal ">=", literal "<", literal ">"], blanks, Version.start 0,
    Version.preRelease, Version.postRelease, Version.devRelease]

/-- A specifier. -/
def written : Pattern := choice [arbitrary, equality, compatible, ordering]

/-- The operators, longer ones before those they start with. -/
def operators : List Text := ["===", "~=", "==", "!=", "<=", ">=", "<", ">"]

/-- The specifier that a text writes. -/
def ofText? (t : Text) : Option Specifier :=
  let t := Text.trim t
  if written.matchesWhole t then
    (operators.find? (Text.startsWith t)).map fun operator =>
      ⟨operator, Text.trim (t.drop operator.length)⟩
  else none

/-- The specifier as a text. -/
def toText (s : Specifier) : Text := s.operator ++ s.version

/-- What two specifiers share when they are the same. -/
def canonical (s : Specifier) : Text × Text :=
  if s.operator = ("===" : Text) || Text.endsWith s.version ".*" then (s.operator, s.version)
  else (s.operator, Version.canonical (s.operator = ("~=" : Text)) s.version)

/-- The specifiers of a list with commas, if each part is one; empty parts do not count. -/
def listOf? (t : Text) : Option (List Specifier) :=
  ((Text.splitOn ',' t).filter fun part => !Text.isBlank part).mapM ofText?

/-- Specifiers in the order of their texts, of the same ones the first. -/
def listText (specifiers : List Specifier) : Text :=
  let sorted := Sorting.sort (fun a b => Text.le a.toText b.toText) specifiers
  let kept := sorted.foldl
    (fun (kept : List Specifier) s =>
      if kept.any fun k => k.canonical = s.canonical then kept else kept ++ [s]) []
  Text.join "," (kept.map toText)

end Specifier

/-! ## Requirements -/

/-- A requirement. -/
structure Requirement where
  name : Text
  extras : List Text
  specifiers : List Specifier
  url : Option Text
  marker : Option Marker

namespace Requirement

open Marker (token? afterIndent)

/-- A package name or an extra. -/
def identifier : Pattern :=
  sequence [
    wordEdge, one CodePoint.isLetterOrDigit, any fun c => c.isLetterOrDigit || isIn "._-" c,
    wordEdge]

/-- The extras after the first; `fuel` bounds their number. -/
def readMoreExtras : Nat → Place → Option (List Text × Place)
  | 0, _ => none
  | fuel + 1, place =>
    match token? (one (is ',')) (afterIndent place) with
    | none => some ([], afterIndent place)
    | some (_, place) => do
      let (extra, place) ← token? identifier (afterIndent place)
      let (rest, place) ← readMoreExtras fuel place
      some (extra :: rest, place)

/-- Extras in brackets, if there are brackets. -/
def readExtras (place : Place) : Option (List Text × Place) :=
  match token? (one (is '[')) place with
  | none => some ([], place)
  | some (_, place) =>
    let place := afterIndent place
    let listed :=
      match token? identifier place with
      | none => some ([], place)
      | some (extra, place) =>
        (readMoreExtras (place.rest.length + 1) place).map fun (rest, place) =>
          (extra :: rest, place)
    listed.bind fun (extras, place) =>
      (token? (one (is ']')) (afterIndent place)).map fun (_, place) => (extras, place)

/-- What may not follow a specifier: a wildcard or a local version that it does not take. -/
def trail : Pattern :=
  choice [
    literal ".*",
    sequence [one (is '+'), one fun c => c.isLower || c.isDigit]]

/-- Specifiers with commas between them, as one text; `fuel` bounds their number. -/
def readSpecifiers : Nat → Place → Option (Text × Place)
  | 0, _ => none
  | fuel + 1, place =>
    match token? Specifier.written place with
    | none => some ([], place)
    | some (specifier, place) =>
      if (token? trail place).isSome then none
      else
        let place := afterIndent place
        match token? (one (is ',')) place with
        | none => some (specifier, place)
        | some (_, place) =>
          (readSpecifiers fuel (afterIndent place)).map fun (rest, place) =>
            (specifier ++ "," ++ rest, place)

/-- Specifiers, possibly in parentheses. -/
def readSpecifierList (place : Place) : Option (Text × Place) :=
  let opened := token? (one (is '(')) place
  let inside := afterIndent ((opened.map Prod.snd).getD place)
  (readSpecifiers (inside.rest.length + 1) inside).bind fun (specifiers, place) =>
    let place := afterIndent place
    if opened.isSome then
      (token? (one (is ')')) place).map fun (_, place) => (specifiers, place)
    else some (specifiers, place)

/-- A semicolon and a marker, or nothing, up to the end. -/
def readMarker (place : Place) : Option (Option Marker) :=
  if place.rest.isEmpty then some none
  else
    (token? (one (is ';')) place).bind fun (_, place) =>
      (Marker.read place).bind fun (marker, place) =>
        if place.rest.isEmpty then some (some (Marker.normal marker)) else none

/-- A requirement that names an address. -/
def readAddress (name : Text) (extras : List Text) (place : Place) : Option Requirement :=
  (token? (many (fun c => !isIndent c) 1 .greedy) (afterIndent place)).bind fun (url, place) =>
    let spaced := afterIndent place
    if !place.rest.isEmpty && spaced.offset = place.offset then none
    else (readMarker spaced).map fun marker => ⟨name, extras, [], some url, marker⟩

/-- A requirement that says which versions will do. -/
def readVersions (name : Text) (extras : List Text) (place : Place) : Option Requirement := do
  let (list, place) ← readSpecifierList place
  let marker ← readMarker (afterIndent place)
  let specifiers ← Specifier.listOf? list
  some ⟨name, extras, specifiers, none, marker⟩

/-- The requirement that a text writes. -/
def ofText? (t : Text) : Option Requirement := do
  let (name, place) ← token? identifier (afterIndent (Place.start t))
  let (extras, place) ← readExtras (afterIndent place)
  match token? (one (is '@')) (afterIndent place) with
  | some (_, place) => readAddress name extras place
  | none => readVersions name extras (afterIndent place)

end Requirement

end Decouple
