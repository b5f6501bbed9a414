import Decouple.Text.Numeral

/-!
# UTF-8

Bytes and their text.  `Utf8.encode` refuses a text with surrogates and says where the first run
of them stands; `Utf8.decode` accepts exactly the shortest forms of scalar values and says what is
wrong with the first byte that no such form explains.
-/

namespace Decouple

/-- A sequence of bytes. -/
abbrev Bytes := List UInt8

namespace Utf8

/-- The bytes of one code point, as many as its number needs. -/
def encodeCodePoint (c : CodePoint) : Bytes :=
  let n := c.val
  if n < 0x80 then [UInt8.ofNat n]
  else if n < 0x800 then [UInt8.ofNat (0xC0 + n / 64), UInt8.ofNat (0x80 + n % 64)]
  else if n < 0x10000 then
    [UInt8.ofNat (0xE0 + n / 4096), UInt8.ofNat (0x80 + n / 64 % 64),
      UInt8.ofNat (0x80 + n % 64)]
  else
    [UInt8.ofNat (0xF0 + n / 262144), UInt8.ofNat (0x80 + n / 4096 % 64),
      UInt8.ofNat (0x80 + n / 64 % 64), UInt8.ofNat (0x80 + n % 64)]

/-- The bytes of a text, surrogates written like any other code point. -/
def encodeAll (t : Text) : Bytes := t.flatMap encodeCodePoint

/-- A run of surrogates that cannot be written: where it starts and what it holds. -/
structure Unwritable where
  start : Nat
  first : CodePoint
  length : Nat
  deriving DecidableEq

/-- The first run of surrogates of a text. -/
def unwritable? (t : Text) : Option Unwritable :=
  match t.dropWhile fun c => !c.isSurrogate with
  | [] => none
  | c :: rest =>
    some ⟨(t.takeWhile fun c => !c.isSurrogate).length, c,
      (rest.takeWhile CodePoint.isSurrogate).length + 1⟩

/-- The bytes of a text without surrogates. -/
def encode (t : Text) : Except Unwritable Bytes :=
  match unwritable? t with
  | some run => .error run
  | none => .ok (encodeAll t)

/-- What is said about a run that cannot be written. -/
def Unwritable.message (u : Unwritable) : Text :=
  let place : Text :=
    if u.length = 1 then
      "character '\\u" ++ Text.hex 4 u.first.val ++ "' in position " ++ Text.ofNat u.start
    else
      "characters in position " ++ Text.ofNat u.start ++ "-" ++
        Text.ofNat (u.start + u.length - 1)
  "'utf-8' codec can't encode " ++ place ++ ": surrogates not allowed"

/-! ## Reading -/

/-- Why bytes are not UTF-8. -/
inductive Fault where
  | invalidStart
  | invalidContinuation
  | unexpectedEnd
  deriving DecidableEq

/-- Bytes that cannot be read: where they start, the first of them, how many, and why. -/
structure Unreadable where
  start : Nat
  first : UInt8
  length : Nat
  fault : Fault
  deriving DecidableEq

/-- How many bytes follow a first byte, and the least and the greatest that the next may be. -/
def leadShape (b : UInt8) : Option (Nat × UInt8 × UInt8) :=
  if b < 0x80 then some (0, 0x80, 0xBF)
  else if b < 0xC2 then none
  else if b < 0xE0 then some (1, 0x80, 0xBF)
  else if b = 0xE0 then some (2, 0xA0, 0xBF)
  else if b = 0xED then some (2, 0x80, 0x9F)
  else if b < 0xF0 then some (2, 0x80, 0xBF)
  else if b = 0xF0 then some (3, 0x90, 0xBF)
  else if b < 0xF4 then some (3, 0x80, 0xBF)
  else if b = 0xF4 then some (3, 0x80, 0x8F)
  else none

/-- The bits of a first byte that count towards the code point, with `more` bytes to follow. -/
def leadBits (more : Nat) (b : UInt8) : Nat :=
  if more = 0 then b.toNat
  else if more = 1 then b.toNat % 32
  else if more = 2 then b.toNat % 16
  else b.toNat % 8

/-- What is being read: bytes still owed, the bounds of the next one and the bits so far. -/
structure Pending where
  owed : Nat
  low : UInt8
  high : UInt8
  bits : Nat
  first : UInt8
  seen : Nat

/-- The text of some bytes; `at` counts the bytes before them, `pending` is what they continue. -/
def decodeFrom (place : Nat) (pending : Option Pending) : Bytes → Except Unreadable Text
  | [] =>
    match pending with
    | none => .ok []
    | some p => .error ⟨place - p.seen, p.first, p.seen, .unexpectedEnd⟩
  | b :: rest =>
    match pending with
    | none =>
      match leadShape b with
      | none => .error ⟨place, b, 1, .invalidStart⟩
      | some (0, _, _) => (decodeFrom (place + 1) none rest).map (CodePoint.ofNat b.toNat :: ·)
      | some (more, low, high) =>
        decodeFrom (place + 1) (some ⟨more, low, high, leadBits more b, b, 1⟩) rest
    | some p =>
      if b < p.low ∨ p.high < b then
        .error ⟨place - p.seen, p.first, p.seen, .invalidContinuation⟩
      else
        let bits := p.bits * 64 + b.toNat % 64
        if p.owed ≤ 1 then (decodeFrom (place + 1) none rest).map (CodePoint.ofNat bits :: ·)
        else
          decodeFrom (place + 1) (some ⟨p.owed - 1, 0x80, 0xBF, bits, p.first, p.seen + 1⟩) rest

/-- The text of some bytes. -/
def decode (bytes : Bytes) : Except Unreadable Text := decodeFrom 0 none bytes

/-- The text of some bytes, if they are UTF-8. -/
def decode? (bytes : Bytes) : Option Text := (decode bytes).toOption

/-- The reason in words. -/
def Fault.message : Fault → Text
  | .invalidStart => "invalid start byte"
  | .invalidContinuation => "invalid continuation byte"
  | .unexpectedEnd => "unexpected end of data"

/-- What is said about bytes that cannot be read. -/
def Unreadable.message (u : Unreadable) : Text :=
  let place : Text :=
    if u.length = 1 then
      "byte 0x" ++ Text.hex 2 u.first.toNat ++ " in position " ++ Text.ofNat u.start
    else
      "bytes in position " ++ Text.ofNat u.start ++ "-" ++ Text.ofNat (u.start + u.length - 1)
  "'utf-8' codec can't decode " ++ place ++ ": " ++ u.fault.message

end Utf8

end Decouple
