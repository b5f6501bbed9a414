import Decouple.Pattern.Scan
import Decouple.Url

/-!
# Addresses, tags and attributes

Web addresses in any text, and the tags and data attributes of markup.  A tag that is alone on its
line takes the line with it.
-/

namespace Decouple

open CodePoint (is isIn isNotIn isBlank isWord isIndent)
open Pattern

namespace Signature

/-- A web address: up to white space, a quote, an angle bracket, a parenthesis or a backslash. -/
def webAddress : Pattern :=
  sequence [
    literal "http", optional (one (is 's')), literal "://",
    many (fun c => !isBlank c && isNotIn "'\"`<>()\\" c) 1 .greedy]

/-- The web addresses of a text. -/
def webAddresses (t : Text) : List Text := (webAddress.findAll t).map Match.text

/-- A tag together with its line if nothing else is on it, and alone otherwise. -/
def wholeLineOrInline (tag : Pattern) : Pattern :=
  choice [sequence [lineStart, indent, tag, indent, choice [lineBreak, textEnd]], tag]

/-- Any code points. -/
def anything (_ : CodePoint) : Bool := true

/-- A script element: its opening tag and what it holds. -/
def scriptParts : Pattern :=
  sequence [
    literalAnyCase "<script", wordEdge, part .opening (any (isNotIn ">")), one (is '>'),
    part .body (many anything 0 .lazy), literalAnyCase "</script", blanks, one (is '>')]

/-- A script element. -/
def scriptTag : Pattern :=
  wholeLineOrInline <| sequence [
    literalAnyCase "<script", wordEdge, any (isNotIn ">"), one (is '>'), many anything 0 .lazy,
    literalAnyCase "</script", blanks, one (is '>')]

/-- A tag without content. -/
def emptyTag (name : Text) : Pattern :=
  wholeLineOrInline <| sequence [
    literalAnyCase ("<" ++ name), wordEdge, any (isNotIn ">"), one (is '>')]

/-- A link. -/
def linkTag : Pattern := emptyTag "link"

/-- A piece of metadata. -/
def metaTag : Pattern := emptyTag "meta"

/-- What the opening tag of a script element holds after its name. -/
def openingOf (script : Text) : Text :=
  match scriptParts.find? script with
  | some m => m.textOf .opening
  | none => []

/-- What stands between the tags of a script element. -/
def bodyOf (script : Text) : Text :=
  match scriptParts.find? script with
  | some m => m.textOf .body
  | none => []

/-- A data attribute of a tag, with all the white space before it. -/
def dataAttribute : Pattern :=
  sequence [
    notAfter isBlank, gap,
    part .attribute
      (sequence [literalAnyCase "data-", many (fun c => isWord c || c = '-') 1 .greedy]),
    optional (sequence [
      one (is '='),
      choice [
        sequence [one (is '"'), any (isNotIn "\""), one (is '"')],
        sequence [one (is '\''), any (isNotIn "'"), one (is '\'')],
        sequence [one (is '\x7b'), any (isNotIn "\x7d"), one (is '\x7d')]]]),
    followedBy (one fun c => isBlank c || isIn "/>" c)]

/-- The name or the content of a tag. -/
def nameOrContent : Pattern :=
  sequence [
    notAfter (fun c => isWord c || c = '-'),
    choice [literalAnyCase "name", literalAnyCase "content"], blanks, one (is '='), blanks,
    choice [
      sequence [one (is '"'), part .inDoubleQuotes (any (isNotIn "\"")), one (is '"')],
      sequence [one (is '\''), part .inSingleQuotes (any (isNotIn "'")), one (is '\'')]]]

/-- The names and contents of a tag. -/
def namesAndContents (tag : Text) : List Text :=
  (nameOrContent.findAll tag).map fun m =>
    match m.part? .inDoubleQuotes with
    | some p => p.text
    | none => m.textOf .inSingleQuotes

end Signature

end Decouple
