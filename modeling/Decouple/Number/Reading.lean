import Decouple.Number.Binary64
import Decouple.Text.Blank
import Decouple.Text.Case
import Decouple.Text.Numeral
import Decouple.Text.Quoted

/-!
# Numbers written by hand

Settings and records may hold numbers as people write them: white space around them, a sign,
digits of any script and single underscores between digits.
-/

namespace Decouple

namespace Reading

/-- White space that may stand around a numeral: all but the information separators. -/
def surrounds (c : CodePoint) : Bool := c.isBlank && !(28 ≤ c.val && c.val ≤ 31)

/-- The numeral inside surrounding white space, with ASCII digits. -/
def numeral (t : Text) : Text :=
  (Text.trimOf surrounds t).map fun c =>
    match c.decimalValue? with
    | some n => Text.digit n
    | none => c

/-- The text without underscores, if each of them stands between two digits. -/
def withoutUnderscores (before : Option CodePoint) : Text → Option Text
  | [] => if before = some '_' then none else some []
  | c :: rest =>
    if c = '_' then
      if before.any CodePoint.isDigit then withoutUnderscores (some c) rest else none
    else if before = some '_' ∧ !c.isDigit then none
    else (withoutUnderscores (some c) rest).map (c :: ·)

/-- The sign of a numeral, true if negative, and what follows it. -/
def sign : Text → Bool × Text
  | [] => (false, [])
  | c :: rest =>
    if c = '-' then (true, rest) else if c = '+' then (false, rest) else (false, c :: rest)

/-- The most digits that an integer may have. -/
def maxDigits : Nat := 4300

/-- Whether an integer has few enough digits to be written. -/
def isWritable (n : Int) : Bool := (Text.ofNat n.natAbs).length ≤ maxDigits

/-- What is said about an integer that has too many. -/
def unwritable : Text :=
  "Exceeds the limit (4300 digits) for integer string conversion; " ++
    "use sys.set_int_max_str_digits() to increase the limit"

/-- Why a text is no integer. -/
inductive IntegerError where
  | notANumeral (text : Text)
  | tooLong (digits : Nat)
  deriving DecidableEq

/-- What is said about a text that is no integer. -/
def IntegerError.message : IntegerError → Text
  | notANumeral t => "invalid literal for int() with base 10: " ++ t.quoted
  | tooLong n =>
    "Exceeds the limit (4300 digits) for integer string conversion: value has " ++ Text.ofNat n ++
      " digits; use sys.set_int_max_str_digits() to increase the limit"

/-- An integer. -/
def integer (t : Text) : Except IntegerError Int :=
  let (negative, rest) := sign (numeral t)
  let run : Text := rest.takeWhile fun c => c.isDigit || c = '_'
  match withoutUnderscores none run with
  | none => .error (.notANumeral t)
  | some digits =>
    if maxDigits < digits.length then .error (.tooLong digits.length)
    else if digits.isEmpty ∨ run.length < rest.length then .error (.notANumeral t)
    else
      let n : Int := Text.decimalValue digits
      .ok (if negative then -n else n)

/-- An exponent: a sign and digits. -/
def exponent (t : Text) : Option Int :=
  let (negative, digits) := sign t
  if digits.isEmpty || !digits.all CodePoint.isDigit then none
  else
    let n : Int := Text.decimalValue digits
    some (if negative then -n else n)

/-- The digits of a fraction at the start of a text, and what follows them; no digits without a
point. -/
def fraction (t : Text) : Text × Text :=
  match t with
  | [] => ([], [])
  | c :: after =>
    if c = '.' then (after.takeWhile CodePoint.isDigit, after.dropWhile CodePoint.isDigit)
    else ([], t)

/-- The exponent that a text writes with its letter; nothing stands for zero. -/
def exponentPart (t : Text) : Option Int :=
  match t with
  | [] => some 0
  | c :: after => if c = 'e' ∨ c = 'E' then exponent after else none

/-- A decimal with an optional fraction and exponent; one digit at least before the exponent. -/
def decimal (negative : Bool) (t : Text) : Option Binary64 :=
  let whole := t.takeWhile CodePoint.isDigit
  let after := fraction (t.dropWhile CodePoint.isDigit)
  let digits := whole ++ after.1
  if digits.isEmpty then none
  else
    (exponentPart after.2).map fun e =>
      Binary64.ofDecimal negative (Text.decimalValue digits) (e - after.1.length)

/-- A real number: a decimal, an infinity or not a number. -/
def real? (t : Text) : Option Binary64 :=
  match withoutUnderscores none (numeral t) with
  | none => none
  | some core =>
    let (negative, rest) := sign core
    let word := rest.map fun c => if c.isAscii then c.lower else c
    if word = ("inf" : Text) ∨ word = ("infinity" : Text) then some (.infinite negative)
    else if word = ("nan" : Text) then some .nan
    else decimal negative rest

end Reading

end Decouple
