import Decouple.Text.CodePoint

/-!
# Numerals

Decimal digits, and whole numbers in decimal and hexadecimal.
-/

namespace Decouple

/-!
## Decimal digits

Every script's decimal digits stand in runs of ten, so a run is known by its zero.
-/

namespace CodePoint

/-- The zeros of the decimal digits beyond ASCII. -/
def digitZeros : List Nat := [
  1632, 1776, 1984, 2406, 2534, 2662, 2790, 2918, 3046, 3174, 3302, 3430, 3558, 3664, 3792, 3872,
  4160, 4240, 6112, 6160, 6470, 6608, 6784, 6800, 6992, 7088, 7232, 7248, 42528, 43216, 43264,
  43472, 43504, 43600, 44016, 65296, 66720, 68912, 69734, 69872, 69942, 70096, 70384, 70736,
  70864, 71248, 71360, 71472, 71904, 72016, 72784, 73040, 73120, 92768, 92864, 93008, 120782,
  120792, 120802, 120812, 120822, 123200, 123632, 125264, 130032]

/-- The value of a decimal digit of any script. -/
def decimalValue? (c : CodePoint) : Option Nat :=
  if c.val < 128 then
    if c.isDigit then some (c.val - 48) else none
  else
    (digitZeros.find? fun nought => nought ≤ c.val && c.val ≤ nought + 9).map (c.val - ·)

end CodePoint

/-! ## Whole numbers -/

namespace Text

/-- The digit of a value below 36, in lower case. -/
def digit (n : Nat) : CodePoint :=
  if n < 10 then CodePoint.ofNat (48 + n) else CodePoint.ofNat (87 + n)

/-- Digits of `n` to a base, put before `acc`; `fuel` bounds their number. -/
def digitsOnto (base : Nat) : Nat → Nat → Text → Text
  | 0, _, acc => acc
  | fuel + 1, n, acc =>
    if n < base then digit n :: acc
    else digitsOnto base fuel (n / base) (digit (n % base) :: acc)

/-- A number in decimal. -/
def ofNat (n : Nat) : Text := digitsOnto 10 (n.log2 + 1) n []

/-- An integer in decimal, with a minus sign if negative. -/
def ofInt (n : Int) : Text := if n < 0 then "-" ++ ofNat n.natAbs else ofNat n.natAbs

/-- The text with `fill` before it until it is `width` long. -/
def padStart (width : Nat) (fill : CodePoint) (t : Text) : Text :=
  List.replicate (width - t.length) fill ++ t

/-- The text with `fill` after it until it is `width` long. -/
def padEnd (width : Nat) (fill : CodePoint) (t : Text) : Text :=
  t ++ List.replicate (width - t.length) fill

/-- A number in hexadecimal with lower-case digits, zeros before it up to `width`. -/
def hex (width n : Nat) : Text := padStart width '0' (digitsOnto 16 (n.log2 + 1) n [])

/-- The value of ASCII decimal digits, most significant first. -/
def decimalValue (t : Text) : Nat := t.foldl (fun n c => n * 10 + (c.val - 48)) 0

/-- So many zeros. -/
def zeros (n : Nat) : Text := List.replicate n '0'

/-- The digits without trailing zeros. -/
def trimDigits (t : Text) : Text := (t.reverse.dropWhile (CodePoint.is '0')).reverse

end Text

end Decouple
