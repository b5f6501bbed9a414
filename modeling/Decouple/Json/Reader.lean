import Decouple.Json.Value
import Decouple.Number.Reading
import Decouple.Text.Parts

/-!
# Reading JSON

The reader accepts the JSON grammar, the three names `NaN`, `Infinity` and `-Infinity`, and
escapes of lone surrogates.  White space is space, tab, line feed and carriage return.  A name that
occurs twice in an object keeps its first place and its last value.  Arrays and objects hold each
other up to `Json.maxDepth` levels.  On a text that is no JSON the reader gives the first fault and
its place.
-/

namespace Decouple

/-- What is wrong with a text that is no JSON. -/
inductive JsonFault where
  | expectingValue
  | expectingName
  | expectingColon
  | expectingComma
  | unterminatedString
  | controlCharacter
  | invalidEscape
  | invalidUnicodeEscape
  | extraData
  | byteOrderMark
  deriving DecidableEq

/-- Why a text cannot be read as JSON. -/
inductive JsonError where
  /-- A fault at a line and column, counted from one, and an offset, counted from zero. -/
  | malformed (fault : JsonFault) (line column offset : Nat)
  /-- An integer of more digits than are read. -/
  | integerTooLong (digits : Nat)
  /-- An array or object beyond the depth that is read. -/
  | tooDeep (holder : Json.Holder)
  deriving DecidableEq

/-- The fault in words. -/
def JsonFault.message : JsonFault → Text
  | expectingValue => "Expecting value"
  | expectingName => "Expecting property name enclosed in double quotes"
  | expectingColon => "Expecting ':' delimiter"
  | expectingComma => "Expecting ',' delimiter"
  | unterminatedString => "Unterminated string starting at"
  | controlCharacter => "Invalid control character at"
  | invalidEscape => "Invalid \\escape"
  | invalidUnicodeEscape => "Invalid \\uXXXX escape"
  | extraData => "Extra data"
  | byteOrderMark => "Unexpected UTF-8 BOM (decode using utf-8-sig)"

/-- The error in words. -/
def JsonError.message : JsonError → Text
  | malformed fault line column offset =>
    fault.message ++ ": line " ++ Text.ofNat line ++ " column " ++ Text.ofNat column ++
      " (char " ++ Text.ofNat offset ++ ")"
  | integerTooLong digits => (Reading.IntegerError.tooLong digits).message
  | tooDeep holder => holder.tooDeep

namespace Json

/-- The text still to be read and the number of code points before it. -/
structure Cursor where
  rest : Text
  offset : Nat

/-- Where and why reading stopped. -/
inductive Stop where
  | fault (f : JsonFault) (offset : Nat)
  | tooLong (digits : Nat)
  | tooDeep (holder : Holder)

/-- What a reading step gives: a value and what follows it. -/
abbrev Read (α : Type) := Except Stop (α × Cursor)

/-- The four blanks between tokens. -/
def isSpace (c : CodePoint) : Bool := c = ' ' || c = '\t' || c = '\n' || c = '\r'

/-- The place after `n` more code points. -/
def Cursor.skip (n : Nat) (cur : Cursor) : Cursor := ⟨cur.rest.drop n, cur.offset + n⟩

/-- The place of the next token. -/
def Cursor.skipSpace (cur : Cursor) : Cursor :=
  cur.skip (cur.rest.takeWhile isSpace).length

/-- Whether a code point stands at the place. -/
def Cursor.sees (cur : Cursor) (c : CodePoint) : Bool := cur.rest.head? = some c

/-! ## Strings -/

/-- The value of four hexadecimal digits at the start of a text. -/
def fourHexDigits? (t : Text) : Option Nat :=
  match t with
  | a :: b :: c :: d :: _ => do
    let a ← a.hexValue?
    let b ← b.hexValue?
    let c ← c.hexValue?
    let d ← d.hexValue?
    some (((a * 16 + b) * 16 + c) * 16 + d)
  | _ => none

/-- The code point that a letter stands for after a backslash. -/
def simpleEscape? (c : CodePoint) : Option CodePoint :=
  if c = '"' ∨ c = '\\' ∨ c = '/' then some c
  else if c = 'b' then some (CodePoint.ofNat 8)
  else if c = 'f' then some (CodePoint.ofNat 12)
  else if c = 'n' then some '\n'
  else if c = 'r' then some '\r'
  else if c = 't' then some '\t'
  else none

/-- The code point of the number escape whose digits start `digits`, and how many code points it
takes after the `u`.  The `u` stands at `offset`.  A high and a low surrogate make one code point,
as long as the text goes on after them. -/
def unicodeEscape (offset : Nat) (digits : Text) : Except Stop (CodePoint × Nat) :=
  if (digits.drop 4).isEmpty then .error (.fault .invalidUnicodeEscape offset)
  else
    match fourHexDigits? digits with
    | none => .error (.fault .invalidUnicodeEscape offset)
    | some high =>
      let alone := (CodePoint.ofNat high, 4)
      if 0xD800 ≤ high && high ≤ 0xDBFF && !(digits.drop 10).isEmpty &&
          Text.startsWith (digits.drop 4) "\\u" then
        match fourHexDigits? (digits.drop 6) with
        | none => .error (.fault .invalidUnicodeEscape (offset + 6))
        | some low =>
          if 0xDC00 ≤ low ∧ low ≤ 0xDFFF then
            .ok (CodePoint.ofNat (0x10000 + (high - 0xD800) * 1024 + (low - 0xDC00)), 10)
          else .ok alone
      else .ok alone

/-- The code point of an escape whose backslash stands at `offset`, and how many code points it
takes after the backslash.  The string was opened at `opened`. -/
def escape (opened offset : Nat) (rest : Text) : Except Stop (CodePoint × Nat) :=
  match rest with
  | [] => .error (.fault .unterminatedString opened)
  | c :: digits =>
    if c = 'u' then (unicodeEscape (offset + 1) digits).map fun (d, n) => (d, n + 1)
    else
      match simpleEscape? c with
      | some d => .ok (d, 1)
      | none => .error (.fault .invalidEscape offset)

/-- The rest of a string opened at `opened`: `skip` code points belong to an escape already read,
and `sofar` is what has been read, latest first. -/
def stringFrom (opened : Nat) : Nat → Text → Nat → Text → Read Text
  | _, [], _, _ => .error (.fault .unterminatedString opened)
  | skip + 1, _ :: rest, offset, sofar => stringFrom opened skip rest (offset + 1) sofar
  | 0, c :: rest, offset, sofar =>
    if c = '"' then .ok (sofar.reverse, ⟨rest, offset + 1⟩)
    else if c = '\\' then
      match escape opened offset rest with
      | .ok (d, n) => stringFrom opened n rest (offset + 1) (d :: sofar)
      | .error e => .error e
    else if c.val < 32 then .error (.fault .controlCharacter offset)
    else stringFrom opened 0 rest (offset + 1) (c :: sofar)

/-! ## Numbers -/

/-- The digits at the start of a text. -/
def digitsOf (t : Text) : Text := t.takeWhile CodePoint.isDigit

/-- The whole part at the start of a text: a zero, or digits that do not start with one. -/
def wholeOf (t : Text) : Text := if t.head? = some '0' then t.take 1 else digitsOf t

/-- The fraction at the start of a text, point included: a point and at least one digit. -/
def fractionOf (t : Text) : Text :=
  match t with
  | c :: rest => if c = '.' && !(digitsOf rest).isEmpty then c :: digitsOf rest else []
  | [] => []

/-- The exponent at the start of a text: its letter, an optional sign and at least one digit. -/
def exponentOf (t : Text) : Text :=
  match t with
  | [] => []
  | e :: rest =>
    if e = 'e' ∨ e = 'E' then
      let sign : Text := (rest.take 1).filter fun c => c = '+' || c = '-'
      let digits := digitsOf (rest.drop sign.length)
      if digits.isEmpty then [] else e :: (sign ++ digits)
    else []

/-- The number at the start of a text and its length. -/
def number? (t : Text) : Option (Except Stop (Json × Nat)) :=
  let sign : Text := (t.take 1).filter fun c => c = '-'
  let unsigned := t.drop sign.length
  let whole := wholeOf unsigned
  if whole.isEmpty then none
  else
    let fraction := fractionOf (unsigned.drop whole.length)
    let exponent := exponentOf (unsigned.drop (whole.length + fraction.length))
    let length := sign.length + whole.length + fraction.length + exponent.length
    let negative := !sign.isEmpty
    if fraction.isEmpty && exponent.isEmpty then
      if Reading.maxDigits < whole.length then some (.error (.tooLong whole.length))
      else
        let n : Int := Text.decimalValue whole
        some (.ok (int (if negative then -n else n), length))
    else
      (Reading.decimal negative (whole ++ fraction ++ exponent)).map fun x => .ok (real x, length)

/-- The names of values, with their values. -/
def namedValues : List (Text × Json) :=
  [("null", null), ("true", bool true), ("false", bool false), ("NaN", real .nan),
    ("Infinity", real (.infinite false)), ("-Infinity", real (.infinite true))]

/-! ## Values -/

/-- How many levels of arrays and objects a text may have. -/
def maxDepth : Nat := 990

/-- The items of an array from the next one on, after those read, latest first; `value` reads one
item and `fuel` bounds their number. -/
def itemsFrom (value : Cursor → Read Json) : Nat → List Json → Cursor → Read Json
  | 0, _, cur => .error (.fault .expectingValue cur.offset)
  | fuel + 1, sofar, cur =>
    match value cur with
    | .error e => .error e
    | .ok (item, cur) =>
      let cur := cur.skipSpace
      if cur.sees ']' then .ok (array (item :: sofar).reverse, cur.skip 1)
      else if cur.sees ',' then
        itemsFrom value fuel (item :: sofar) (cur.skip 1).skipSpace
      else .error (.fault .expectingComma cur.offset)

/-- The members of an object from the next one on, after those read; `value` reads the value of
one and `fuel` bounds their number. -/
def membersFrom (value : Cursor → Read Json) : Nat → List (Text × Json) → Cursor → Read Json
  | 0, _, cur => .error (.fault .expectingName cur.offset)
  | fuel + 1, sofar, cur =>
    if !cur.sees '"' then .error (.fault .expectingName cur.offset)
    else
      match stringFrom cur.offset 0 (cur.rest.drop 1) (cur.offset + 1) [] with
      | .error e => .error e
      | .ok (name, cur) =>
        let cur := cur.skipSpace
        if !cur.sees ':' then .error (.fault .expectingColon cur.offset)
        else
          match value (cur.skip 1).skipSpace with
          | .error e => .error e
          | .ok (item, cur) =>
            let cur := cur.skipSpace
            let sofar := putMember name item sofar
            if cur.sees '\x7d' then .ok (object sofar, cur.skip 1)
            else if cur.sees ',' then
              membersFrom value fuel sofar (cur.skip 1).skipSpace
            else .error (.fault .expectingComma cur.offset)

/-- The value at a place that holds no others. -/
def plainFrom (cur : Cursor) : Read Json :=
  match cur.rest with
  | [] => .error (.fault .expectingValue cur.offset)
  | c :: rest =>
    if c = '"' then
      (stringFrom cur.offset 0 rest (cur.offset + 1) []).map fun (t, cur) => (string t, cur)
    else
      match namedValues.find? fun (name, _) => name.isPrefixOf cur.rest with
      | some (name, value) => .ok (value, cur.skip name.length)
      | none =>
        match number? cur.rest with
        | some (.ok (value, length)) => .ok (value, cur.skip length)
        | some (.error e) => .error e
        | none => .error (.fault .expectingValue cur.offset)

/-- The kind of the value at a place, if it holds others. -/
def holderAt? (cur : Cursor) : Option Holder :=
  if cur.sees '[' then some .array
  else if cur.sees '\x7b' then some .object
  else none

/-- The value at a place, with so many levels of arrays and objects at most, each of which holds at
most `most` values. -/
def valueFrom (most : Nat) : Nat → Cursor → Read Json
  | 0, cur =>
    match holderAt? cur with
    | some holder => .error (.tooDeep holder)
    | none => plainFrom cur
  | levels + 1, cur =>
    let inside := (cur.skip 1).skipSpace
    match holderAt? cur with
    | some .array =>
      if inside.sees ']' then .ok (array [], inside.skip 1)
      else itemsFrom (valueFrom most levels) most [] inside
    | some .object =>
      if inside.sees '\x7d' then .ok (object [], inside.skip 1)
      else membersFrom (valueFrom most levels) most [] inside
    | none => plainFrom cur

/-- The value of a whole text, up to where reading stops. -/
def readStop (t : Text) : Except Stop Json :=
  if t.head?.any (fun c => c.val = 0xFEFF) then .error (.fault .byteOrderMark 0)
  else
    match valueFrom t.length maxDepth (Cursor.skipSpace ⟨t, 0⟩) with
    | .error e => .error e
    | .ok (value, cur) =>
      let cur := cur.skipSpace
      if cur.rest.isEmpty then .ok value else .error (.fault .extraData cur.offset)

/-- The error that a stop means in a text. -/
def Stop.inText (t : Text) : Stop → JsonError
  | fault f offset =>
    let before := t.take offset
    .malformed f (Text.countOf '\n' before + 1)
      ((Text.afterLast '\n' before).length + 1) offset
  | tooLong digits => .integerTooLong digits
  | tooDeep holder => .tooDeep holder

/-- The value that a text writes. -/
def read (t : Text) : Except JsonError Json := (readStop t).mapError (Stop.inText t)

end Json

end Decouple
