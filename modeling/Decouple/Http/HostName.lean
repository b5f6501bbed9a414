import Decouple.Http.Fault
import Decouple.Http.Label
import Decouple.Pattern.Scan
import Decouple.Text.Parts
import Decouple.Text.Utf8
import Decouple.Url

/-!
# Escapes and hosts of requests

The host of a request is a network address or a name.  Four groups of digits have to be an address,
and so has what stands in brackets, which are dropped.  A name is written in small letters and in
ASCII.
-/

namespace Decouple

/-!
## Percent escapes

Code points that an address cannot hold are written as the bytes of their encoding, each behind a
percent sign with two hexadecimal digits.
-/

namespace Percent

/-- A hexadecimal digit, with capital letters. -/
def digit (n : Nat) : CodePoint := CodePoint.ofNat (if n < 10 then 48 + n else 55 + n)

/-- The escape of a byte. -/
def ofByte (b : UInt8) : Text := ['%', digit (b.toNat / 16), digit (b.toNat % 16)]

/-- The escape of a code point. -/
def ofCodePoint (c : CodePoint) : Text := (Utf8.encodeCodePoint c).flatMap ofByte

/-- A text with all code points escaped but those to keep. -/
def escape (keep : CodePoint → Bool) (t : Text) : Text :=
  t.flatMap fun c => if keep c then [c] else ofCodePoint c

/-- The code points that no part of an address has a use for. -/
def isUnreserved (c : CodePoint) : Bool := c.isLetterOrDigit || CodePoint.isIn "-._~" c

/-- A text as one segment of a path. -/
def segment (t : Text) : Except Utf8.Unwritable Text :=
  (Utf8.encode t).map fun _ => escape isUnreserved t

/-- A text as a path. -/
def path (t : Text) : Except Utf8.Unwritable Text :=
  (Utf8.encode t).map fun _ => escape (fun c => isUnreserved c || c = '/') t

/-- A text as the value of a query: a blank is a plus sign. -/
def queryValue (t : Text) : Text :=
  Text.replaceCodePoint ' ' '+' (escape (fun c => isUnreserved c || c = ' ') t)

/-! ### Reading -/

/-- The bytes of a text with escapes; a percent sign that starts none stands for itself. -/
def unescape : Text → Bytes
  | c :: a :: b :: rest =>
    match CodePoint.hexValue? a, CodePoint.hexValue? b with
    | some high, some low =>
      if c = '%' then UInt8.ofNat (high * 16 + low) :: unescape rest
      else Utf8.encodeCodePoint c ++ unescape (a :: b :: rest)
    | _, _ => Utf8.encodeCodePoint c ++ unescape (a :: b :: rest)
  | c :: rest => Utf8.encodeCodePoint c ++ unescape rest
  | [] => []

end Percent

open CodePoint (isIn)

namespace HostName

/-! ## Names in ASCII -/

/-- Code points that separate the labels of a name that is not ASCII. -/
def isDot (c : CodePoint) : Bool := [0x2E, 0x3002, 0xFF0E, 0xFF61].contains c.val

/-- The most code points of a name, a dot at its end not counted. -/
def maxLength : Nat := 253

/-- The ASCII form of a name; it may end with a dot. -/
def asciiName? (t : Text) : Option Text := do
  let labels := Text.splitWhere isDot t
  let ending : List Text := if labels.getLast? = some [] then [[]] else []
  let written ← (labels.take (labels.length - ending.length)).mapM Label.toAscii?
  let name := Text.join "." (written ++ ending)
  if written.isEmpty || maxLength + ending.length < name.length then none else some name

/-! ## Hosts -/

/-- Code points that a name keeps. -/
def isKept (c : CodePoint) : Bool := Percent.isUnreserved c || isIn "!$&'()*+,;=\"`\x7b\x7d%|\\" c

/-- Four groups of digits with any code points between them. -/
def fourGroups : Pattern :=
  let digits := Pattern.some' CodePoint.isDigit
  let between := Pattern.one fun _ => true
  Pattern.sequence [digits, between, digits, between, digits, between, digits]

/-- What stands in brackets. -/
def inBrackets? (t : Text) : Option Text := do
  let t ← Text.dropStart? "[" t
  Text.dropEnd? "]" t

/-- The host that a text means. -/
def read (t : Text) : Except AddressFault Text :=
  if fourGroups.matchesWhole t then
    if Url.isDottedQuad t then .ok t else .error (.quad t)
  else
    match inBrackets? t with
    | some inner => if Url.isGroupedAddress inner then .ok inner else .error (.bracketed t)
    | none =>
      let name := Text.lowerCase t
      if t.all CodePoint.isAscii then .ok (Percent.escape isKept name)
      else
        match asciiName? name with
        | some name => .ok name
        | none => .error (.hostName t)

end HostName

end Decouple
