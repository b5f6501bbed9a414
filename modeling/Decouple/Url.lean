import Decouple.Text.Blank
import Decouple.Text.Case
import Decouple.Text.Parts

/-!
# Hosts of addresses

The host of a web address: what follows `//` up to a slash, a question mark or a number sign,
without user information and without a colon and what comes after it, in lower case.  An address
with unbalanced brackets, with brackets around something that is no network address, or with a
code point that would turn into punctuation under compatibility normalization, has no host.
-/

namespace Decouple

open CodePoint (isNotIn)

namespace Url

/-- Code points beyond ASCII whose compatibility form holds one of `/ ? # @ :`. -/
def disguisedPunctuation : List Nat := [
  0x2047, 0x2048, 0x2049, 0x2100, 0x2101, 0x2105, 0x2106, 0x2A74, 0xFE13, 0xFE16, 0xFE55, 0xFE56,
  0xFE5F, 0xFE6B, 0xFF03, 0xFF0F, 0xFF1A, 0xFF1F, 0xFF20]

/-- Code points of a scheme. -/
def isSchemeCodePoint (c : CodePoint) : Bool := c.isLetterOrDigit || c = '+' || c = '-' || c = '.'

/-- The address without control characters before it and without tabs and line breaks in it. -/
def cleaned (url : Text) : Text :=
  (url.dropWhile fun c => c.val ≤ 32).filter fun c => c ≠ '\t' && c ≠ '\r' && c ≠ '\n'

/-- The address without its scheme. -/
def withoutScheme (url : Text) : Text :=
  match Text.cut ':' url with
  | (scheme, some after) =>
    if scheme.head?.any CodePoint.isLetter && scheme.all isSchemeCodePoint then after else url
  | (_, none) => url

/-- What stands between `//` and the path, query or fragment. -/
def authority (url : Text) : Text :=
  match Text.dropStart? "//" (withoutScheme (cleaned url)) with
  | some after => after.takeWhile (isNotIn "/?#")
  | none => []

/-! ## Bracketed addresses -/

/-- One of four decimal groups: no leading zero, at most 255. -/
def isOctet (t : Text) : Bool :=
  !t.isEmpty && t.length ≤ 3 && t.all CodePoint.isDigit &&
    (t.length = 1 || t.head? ≠ some '0') &&
    (t.foldl (fun n c => n * 10 + (c.val - 48)) 0) ≤ 255

/-- Four decimal groups with points between them. -/
def isDottedQuad (t : Text) : Bool :=
  let groups := Text.splitOn '.' t
  groups.length = 4 && groups.all isOctet

/-- One of eight hexadecimal groups. -/
def isHextet (t : Text) : Bool :=
  !t.isEmpty && t.length ≤ 4 && t.all fun c => c.hexValue?.isSome

/-- Whether groups between colons make an address: eight of them, or fewer with one `::`, which
leaves empty groups at its place and, at either end of the address, beside it. -/
def areGroups (groups : List Text) : Bool :=
  let inner := (groups.drop 1).dropLast
  match inner.countP (·.isEmpty) with
  | 0 => groups.length = 8 && groups.all isHextet
  | 1 =>
    let high := groups.take (1 + (inner.takeWhile (!·.isEmpty)).length)
    let low := groups.drop (high.length + 1)
    let high := if high = [[]] then [] else high
    let low := if low = [[]] then [] else low
    high.all isHextet && low.all isHextet && high.length + low.length ≤ 7
  | _ => false

/-- An address of hexadecimal groups, the last two possibly as a dotted quad, with an optional
zone. -/
def isGroupedAddress (t : Text) : Bool :=
  let (address, zone) := Text.cut '%' t
  let zoneFits : Bool :=
    match zone with
    | none => true
    | some z => !z.isEmpty && !z.contains '%'
  let parts := Text.splitOn ':' address
  let last := parts.getLastD []
  let fits : Bool :=
    if last.contains '.' then
      isDottedQuad last && areGroups (parts.dropLast ++ (["0", "0"] : List Text))
    else areGroups parts
  !t.contains '/' && zoneFits && 3 ≤ parts.length && fits

/-- An address of a future version: `v`, hexadecimal digits, a point and something more. -/
def isFutureAddress (t : Text) : Bool :=
  match Text.cut '.' (t.drop 1) with
  | (version, some rest) =>
    !version.isEmpty && version.all (fun c => c.hexValue?.isSome) && !rest.isEmpty &&
      !rest.contains '\n'
  | (_, none) => false

/-- Whether something may stand in brackets. -/
def mayBeBracketed (t : Text) : Bool :=
  if t.head? = some 'v' then isFutureAddress t else isGroupedAddress t

/-! ## The host -/

/-- Whether the brackets of an authority are used as they may be. -/
def bracketsFit (authority : Text) : Bool :=
  if authority.contains '[' && authority.contains ']' then
    mayBeBracketed (Text.beforeFirst ']' (Text.afterFirst '[' authority))
  else !authority.contains '[' && !authority.contains ']'

/-- Whether an authority hides punctuation. -/
def hidesPunctuation (authority : Text) : Bool :=
  authority.any fun c => disguisedPunctuation.contains c.val

/-- The host in an authority. -/
def hostOf (authority : Text) : Text :=
  let place := Text.afterLast '@' authority
  if place.contains '[' then Text.beforeFirst ']' (Text.afterFirst '[' place)
  else Text.beforeFirst ':' place

/-- The host of an address; empty if it has none. -/
def host (url : Text) : Text :=
  let place := authority url
  if bracketsFit place && !hidesPunctuation place then Text.lowerCase (hostOf place) else []

end Url

end Decouple
