import Decouple.Json.Reader
import Decouple.Text.Utf8

/-!
# JSON in bytes

Bytes that hold a JSON text are UTF-8, with or without a byte order mark, or an encoding of two or
four bytes per unit; which one it is shows in the zeros among the first bytes.
-/

namespace Decouple

/-- The encodings of a JSON text. -/
inductive JsonEncoding where
  | bytes
  | pairs (bigEndian : Bool)
  | quads (bigEndian : Bool)
  deriving DecidableEq

/-- Why bytes hold no JSON value. -/
inductive JsonBytesError where
  | utf8 (u : Utf8.Unreadable)
  /-- The last unit of a wider encoding is not whole. -/
  | cut (e : JsonEncoding) (place : Nat) (first : UInt8) (length : Nat)
  /-- A unit of four bytes is beyond the code space. -/
  | beyond (e : JsonEncoding) (place : Nat) (first : UInt8)
  | json (e : JsonError)

namespace JsonEncoding

/-- The name of an encoding. -/
def name : JsonEncoding → Text
  | bytes => "utf-8"
  | pairs true => "utf-16-be"
  | pairs false => "utf-16-le"
  | quads true => "utf-32-be"
  | quads false => "utf-32-le"

/-- The encoding of some bytes. -/
def ofBytes (bs : Bytes) : JsonEncoding :=
  match bs with
  | a :: b :: c :: d :: _ =>
    if a = 0 then (if b = 0 then quads true else pairs true)
    else if b = 0 then (if c = 0 && d = 0 then quads false else pairs false)
    else bytes
  | [a, b] => if a = 0 then pairs true else if b = 0 then pairs false else bytes
  | _ => bytes

/-- The code points of units of two bytes: two surrogates that fit are one code point. -/
def joinPairs : List Nat → Text
  | high :: low :: rest =>
    if 0xD800 ≤ high && high < 0xDC00 && 0xDC00 ≤ low && low < 0xE000 then
      CodePoint.ofNat (0x10000 + (high - 0xD800) * 1024 + (low - 0xDC00)) :: joinPairs rest
    else CodePoint.ofNat high :: joinPairs (low :: rest)
  | [unit] => [CodePoint.ofNat unit]
  | [] => []

/-- The units of two bytes that some bytes are; `place` counts the bytes before them. -/
def pairUnits (big : Bool) (place : Nat) : Bytes → Except JsonBytesError (List Nat)
  | [] => .ok []
  | [a] => .error (.cut (pairs big) place a 1)
  | a :: b :: rest =>
    (pairUnits big (place + 2) rest).map fun units =>
      (if big then a.toNat * 256 + b.toNat else b.toNat * 256 + a.toNat) :: units

/-- The number of a unit of four bytes, the highest byte first. -/
def quadUnit (a b c d : UInt8) : Nat :=
  ((a.toNat * 256 + b.toNat) * 256 + c.toNat) * 256 + d.toNat

/-- The code points of units of four bytes. -/
def quadCodePoints (big : Bool) (place : Nat) : Bytes → Except JsonBytesError Text
  | a :: b :: c :: d :: rest =>
    let unit := if big then quadUnit a b c d else quadUnit d c b a
    if unit < 0x110000 then
      (quadCodePoints big (place + 4) rest).map (CodePoint.ofNat unit :: ·)
    else .error (.beyond (quads big) place a)
  | a :: rest => .error (.cut (quads big) place a (rest.length + 1))
  | [] => .ok []

/-- The text of some bytes in an encoding. -/
def decode (bs : Bytes) : JsonEncoding → Except JsonBytesError Text
  | bytes =>
    let body := if bs.take 3 == [0xEF, 0xBB, 0xBF] then bs.drop 3 else bs
    (Utf8.decode body).mapError .utf8
  | pairs big => (pairUnits big 0 bs).map joinPairs
  | quads big => quadCodePoints big 0 bs

end JsonEncoding

namespace JsonBytesError

/-- What is said about a place that cannot be read. -/
def placeMessage (e : JsonEncoding) (place length : Nat) (first : UInt8) (why : Text) : Text :=
  let what : Text :=
    if length = 1 then
      "byte 0x" ++ Text.hex 2 first.toNat ++ " in position " ++ Text.ofNat place
    else "bytes in position " ++ Text.ofNat place ++ "-" ++ Text.ofNat (place + length - 1)
  "'" ++ e.name ++ "' codec can't decode " ++ what ++ ": " ++ why

/-- An error in words. -/
def message : JsonBytesError → Text
  | utf8 u => u.message
  | cut e place first length => placeMessage e place length first "truncated data"
  | beyond e place first =>
    placeMessage e place 4 first "code point not in range(0x110000)"
  | json e => e.message

end JsonBytesError

namespace Json

/-- Read the JSON value in some bytes. -/
def readBytes (bs : Bytes) : Except JsonBytesError Json := do
  let t ← (JsonEncoding.ofBytes bs).decode bs
  (read t).mapError .json

end Json

end Decouple
