import Decouple.Json.Value
import Decouple.Text.Parts

/-!
# Writing JSON

A `JsonStyle` says whether members and items go on lines of their own, whether all but printable
ASCII is escaped, whether members are sorted by name and whether separators have a blank.
-/

namespace Decouple

/-- How a JSON text is laid out. -/
structure JsonStyle where
  /-- Spaces for each level of nesting; none puts everything on one line. -/
  indent : Option Nat
  escapeNonAscii : Bool
  sortMembers : Bool
  spaced : Bool := true

namespace JsonStyle

/-- Two spaces for each level, members in their order, text as it is. -/
def pretty : JsonStyle := ⟨some 2, false, false, true⟩

/-- One line of ASCII with sorted members. -/
def line : JsonStyle := ⟨none, true, true, true⟩

/-- One line without blanks, members in their order, text as it is. -/
def compact : JsonStyle := ⟨none, false, false, false⟩

end JsonStyle

namespace Json

/-- A 16-bit escape. -/
def unitEscape (n : Nat) : Text := "\\u" ++ Text.hex 4 n

/-- The escape of a code point: one 16-bit unit, or two for a code point beyond them. -/
def codePointEscape (c : CodePoint) : Text :=
  if c.val < 0x10000 then unitEscape c.val
  else
    unitEscape (0xD800 + (c.val - 0x10000) / 1024) ++ unitEscape (0xDC00 + (c.val - 0x10000) % 1024)

/-- One code point of a string. -/
def writeCodePoint (style : JsonStyle) (c : CodePoint) : Text :=
  if c = '"' ∨ c = '\\' then ['\\', c]
  else if c = '\n' then "\\n"
  else if c = '\r' then "\\r"
  else if c = '\t' then "\\t"
  else if c.val = 8 then "\\b"
  else if c.val = 12 then "\\f"
  else if c.val < 32 then unitEscape c.val
  else if style.escapeNonAscii && 126 < c.val then codePointEscape c
  else [c]

/-- A string in double quotes. -/
def writeString (style : JsonStyle) (t : Text) : Text :=
  "\"" ++ t.flatMap (writeCodePoint style) ++ "\""

/-- The start of a line at a nesting depth. -/
def newLine (style : JsonStyle) (depth : Nat) : Text :=
  match style.indent with
  | none => []
  | some width => "\n" ++ List.replicate (width * depth) (CodePoint.ofChar ' ')

/-- What stands between two items. -/
def itemSeparator (style : JsonStyle) (depth : Nat) : Text :=
  match style.indent with
  | none => if style.spaced then ", " else ","
  | some _ => "," ++ newLine style depth

/-- What stands between a name and its value. -/
def nameSeparator (style : JsonStyle) : Text := if style.spaced then ": " else ":"

mutual

/-- A value at a nesting depth. -/
def writeAt (style : JsonStyle) (depth : Nat) : Json → Text
  | null => "null"
  | bool b => if b then "true" else "false"
  | int n => Text.ofInt n
  | real x => DecimalLayout.json.render x
  | string t => writeString style t
  | array [] => "[]"
  | array (j :: rest) =>
    "[" ++ newLine style (depth + 1) ++ writeItems style (depth + 1) (j :: rest) ++
      newLine style depth ++ "]"
  | object [] => "\x7b\x7d"
  | object (m :: rest) =>
    let written := writeMembers style (depth + 1) (m :: rest)
    let ordered :=
      if style.sortMembers then Sorting.sort (fun a b => Text.le a.1 b.1) written else written
    "\x7b" ++ newLine style (depth + 1) ++
      Text.join (itemSeparator style (depth + 1)) (ordered.map Prod.snd) ++
      newLine style depth ++ "\x7d"

/-- Items with separators between them. -/
def writeItems (style : JsonStyle) (depth : Nat) : List Json → Text
  | [] => []
  | [j] => writeAt style depth j
  | j :: rest => writeAt style depth j ++ itemSeparator style depth ++ writeItems style depth rest

/-- The members, each beside its name. -/
def writeMembers (style : JsonStyle) (depth : Nat) : List (Text × Json) → List (Text × Text)
  | [] => []
  | (n, j) :: rest =>
    (n, writeString style n ++ nameSeparator style ++ writeAt style depth j) ::
      writeMembers style depth rest

end

/-- A value in a style. -/
def write (style : JsonStyle) (j : Json) : Text := writeAt style 0 j

end Json

end Decouple
