import Decouple.Text.Utf8

/-!
# Base 64

Four digits write three bytes.  Reading skips code points that are no digits; it ends at padding
that completes a group, and fails when the text ends within a group.  Main statement: what is
written reads back.
-/

namespace Decouple

namespace Base64

/-- The value of a digit. -/
def value? (c : CodePoint) : Option Nat :=
  if c.isUpper then some (c.val - 65)
  else if c.isLower then some (c.val - 71)
  else if c.isDigit then some (c.val + 4)
  else if c = '+' then some 62
  else if c = '/' then some 63
  else none

/-- Read on within a group: `count` digits of it have been read, `bits` are those of them that no
byte has yet, and `pads` paddings follow them. -/
def readFrom (count bits pads : Nat) : Text → Option Bytes
  | [] => if count = 0 then some [] else none
  | c :: rest =>
    if c = '=' then
      if 2 ≤ count && 4 ≤ count + pads + 1 then some []
      else readFrom count bits (if 2 ≤ count then pads + 1 else pads) rest
    else
      match value? c with
      | none => readFrom count bits pads rest
      | some v =>
        match count with
        | 0 => readFrom 1 v 0 rest
        | 1 => (readFrom 2 (v % 16) 0 rest).map (UInt8.ofNat (bits * 4 + v / 16) :: ·)
        | 2 => (readFrom 3 (v % 4) 0 rest).map (UInt8.ofNat (bits * 16 + v / 4) :: ·)
        | _ => (readFrom 0 0 0 rest).map (UInt8.ofNat (bits * 64 + v) :: ·)

/-- The bytes that a text writes. -/
def read? (t : Text) : Option Bytes :=
  if t.all CodePoint.isAscii then readFrom 0 0 0 t else none

/-! ## Writing -/

/-- The digit with a value. -/
def digit (n : Nat) : CodePoint :=
  if n < 26 then CodePoint.ofNat (65 + n)
  else if n < 52 then CodePoint.ofNat (71 + n)
  else if n < 62 then CodePoint.ofNat (n - 4)
  else if n = 62 then '+'
  else '/'

/-- The text of some bytes, padded to whole groups. -/
def write : Bytes → Text
  | [] => []
  | [a] => [digit (a.toNat / 4), digit (a.toNat % 4 * 16), '=', '=']
  | [a, b] =>
    [digit (a.toNat / 4), digit (a.toNat % 4 * 16 + b.toNat / 16), digit (b.toNat % 16 * 4), '=']
  | a :: b :: c :: rest =>
    digit (a.toNat / 4) :: digit (a.toNat % 4 * 16 + b.toNat / 16) ::
      digit (b.toNat % 16 * 4 + c.toNat / 64) :: digit (c.toNat % 64) :: write rest

theorem value?_digit : ∀ n < 64, value? (digit n) = some n := by decide

theorem digit_ne_pad : ∀ n < 64, digit n ≠ '=' := by decide

theorem isAscii_digit : ∀ n < 64, (digit n).isAscii = true := by decide

/-- Reading one digit. -/
theorem readFrom_digit {n : Nat} (h : n < 64) (count bits pads : Nat) (t : Text) :
    readFrom count bits pads (digit n :: t) =
      match count with
      | 0 => readFrom 1 n 0 t
      | 1 => (readFrom 2 (n % 16) 0 t).map (UInt8.ofNat (bits * 4 + n / 16) :: ·)
      | 2 => (readFrom 3 (n % 4) 0 t).map (UInt8.ofNat (bits * 16 + n / 4) :: ·)
      | _ => (readFrom 0 0 0 t).map (UInt8.ofNat (bits * 64 + n) :: ·) := by
  rw [readFrom, if_neg (digit_ne_pad n h), value?_digit n h]

theorem ofNat_eq_of_toNat {n : Nat} {b : UInt8} (h : n = b.toNat) : UInt8.ofNat n = b := by
  rw [h, UInt8.ofNat_toNat]

/-- Padding that completes a group ends the reading. -/
theorem readFrom_pads (bits : Nat) : readFrom 2 bits 0 ['=', '='] = some [] := rfl

theorem readFrom_pad (bits : Nat) : readFrom 3 bits 0 ['='] = some [] := rfl

/-- What is written reads back. -/
theorem readFrom_write (bytes : Bytes) : readFrom 0 0 0 (write bytes) = some bytes := by
  fun_induction write bytes with
  | case1 => rfl
  | case2 a =>
    have ha := a.toNat_lt
    simp only [readFrom_digit (show a.toNat / 4 < 64 by omega),
      readFrom_digit (show a.toNat % 4 * 16 < 64 by omega), readFrom_pads, Option.map_some]
    rw [ofNat_eq_of_toNat (b := a) (by omega)]
  | case3 a b =>
    have ha := a.toNat_lt
    have hb := b.toNat_lt
    simp only [readFrom_digit (show a.toNat / 4 < 64 by omega),
      readFrom_digit (show a.toNat % 4 * 16 + b.toNat / 16 < 64 by omega),
      readFrom_digit (show b.toNat % 16 * 4 < 64 by omega), readFrom_pad, Option.map_some]
    rw [ofNat_eq_of_toNat (b := a) (by omega), ofNat_eq_of_toNat (b := b) (by omega)]
  | case4 a b c rest ih =>
    have ha := a.toNat_lt
    have hb := b.toNat_lt
    have hc := c.toNat_lt
    simp only [readFrom_digit (show a.toNat / 4 < 64 by omega),
      readFrom_digit (show a.toNat % 4 * 16 + b.toNat / 16 < 64 by omega),
      readFrom_digit (show b.toNat % 16 * 4 + c.toNat / 64 < 64 by omega),
      readFrom_digit (show c.toNat % 64 < 64 by omega), ih, Option.map_some]
    rw [ofNat_eq_of_toNat (b := a) (by omega), ofNat_eq_of_toNat (b := b) (by omega),
      ofNat_eq_of_toNat (b := c) (by omega)]

theorem all_isAscii_write (bytes : Bytes) : (write bytes).all CodePoint.isAscii = true := by
  fun_induction write bytes with
  | case1 => rfl
  | case2 a =>
    have ha := a.toNat_lt
    simp [isAscii_digit _ (show a.toNat / 4 < 64 by omega),
      isAscii_digit _ (show a.toNat % 4 * 16 < 64 by omega)]
    decide
  | case3 a b =>
    have ha := a.toNat_lt
    have hb := b.toNat_lt
    simp [isAscii_digit _ (show a.toNat / 4 < 64 by omega),
      isAscii_digit _ (show a.toNat % 4 * 16 + b.toNat / 16 < 64 by omega),
      isAscii_digit _ (show b.toNat % 16 * 4 < 64 by omega)]
    decide
  | case4 a b c rest ih =>
    have ha := a.toNat_lt
    have hb := b.toNat_lt
    have hc := c.toNat_lt
    simp only [List.all_cons, ih,
      isAscii_digit _ (show a.toNat / 4 < 64 by omega),
      isAscii_digit _ (show a.toNat % 4 * 16 + b.toNat / 16 < 64 by omega),
      isAscii_digit _ (show b.toNat % 16 * 4 + c.toNat / 64 < 64 by omega),
      isAscii_digit _ (show c.toNat % 64 < 64 by omega)]
    rfl

theorem read?_write (bytes : Bytes) : read? (write bytes) = some bytes := by
  rw [read?, if_pos (all_isAscii_write bytes), readFrom_write]

end Base64

end Decouple
