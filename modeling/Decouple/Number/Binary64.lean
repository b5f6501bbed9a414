/-!
# Binary floating-point numbers

`Binary64` is the 64-bit binary format as exact values: a signed integer below 2^53 times a power
of two, an infinity, or not a number.  Every operation is exact rational arithmetic followed by
one rounding to nearest, ties to even.
-/

namespace Decouple

/-- A number of the 64-bit binary format; `finite negative m e` is `±m · 2^e`. -/
inductive Binary64 where
  | finite (negative : Bool) (mantissa : Nat) (exponent : Int)
  | infinite (negative : Bool)
  | nan
  deriving DecidableEq

namespace Binary64

/-- The quotient rounded to the nearest whole number, a tie to the even one. -/
def roundQuotient (num den : Nat) : Nat :=
  let q := num / den
  let r := num % den
  if 2 * r < den then q
  else if den < 2 * r then q + 1
  else if q % 2 = 0 then q else q + 1

/-- The least exponent: every finite number is a multiple of `2^leastExponent`. -/
def leastExponent : Int := -1074

/-- The greatest exponent of a mantissa of 53 bits. -/
def greatestExponent : Int := 971

/-- `num / den` divided by `2^e` as a pair of natural numbers. -/
def scaled (num den : Nat) (e : Int) : Nat × Nat :=
  if e < 0 then (num * Nat.pow 2 (-e).toNat, den) else (num, den * Nat.pow 2 e.toNat)

/-- The exponent with which the mantissa of `num / den` has 53 bits, or the least one. -/
def exponentFor (num den : Nat) : Int :=
  let guess : Int := (num.log2 : Int) - den.log2 - 52
  let (n, d) := scaled num den guess
  max leastExponent (if n < d * Nat.pow 2 52 then guess - 1 else guess)

/-- The number `±m · 2^e`, infinite beyond the greatest exponent. -/
def limited (negative : Bool) (m : Nat) (e : Int) : Binary64 :=
  if greatestExponent < e then infinite negative else finite negative m e

/-- The number `±m · 2^e` for a mantissa as rounding leaves it, which may be `2^53`. -/
def ofRounded (negative : Bool) (m : Nat) (e : Int) : Binary64 :=
  if m = Nat.pow 2 53 then limited negative (Nat.pow 2 52) (e + 1) else limited negative m e

/-- `num / den` as a multiple of `2^e`, rounded. -/
def roundAt (num den : Nat) (e : Int) : Nat :=
  roundQuotient (scaled num den e).1 (scaled num den e).2

/-- The number nearest to `±num / den`, for a positive `den`. -/
def ofRatio (negative : Bool) (num den : Nat) : Binary64 :=
  if num = 0 then finite negative 0 leastExponent
  else ofRounded negative (roundAt num den (exponentFor num den)) (exponentFor num den)

/-- The number nearest to an integer. -/
def ofInt (n : Int) : Binary64 := ofRatio (n < 0) n.natAbs 1

/-- The number nearest to `±digits · 10^exponent`. -/
def ofDecimal (negative : Bool) (digits : Nat) (exponent : Int) : Binary64 :=
  let length : Int := digits.log2 * 30103 / 100000
  if digits = 0 then finite negative 0 leastExponent
  else if 310 < length + exponent then infinite negative
  else if length + exponent < -400 then finite negative 0 leastExponent
  else if exponent < 0 then ofRatio negative digits (Nat.pow 10 (-exponent).toNat)
  else ofRatio negative (digits * Nat.pow 10 exponent.toNat) 1

/-- The quotient of two integers, rounded once; the divisor is not zero. -/
def quotient (a b : Int) : Binary64 :=
  ofRatio ((a < 0 : Bool) != (b < 0 : Bool)) a.natAbs b.natAbs

/-- The product, rounded once. -/
def mul : Binary64 → Binary64 → Binary64
  | finite s m e, finite t n f =>
    let k := e + f
    if k < 0 then ofRatio (s != t) (m * n) (Nat.pow 2 (-k).toNat)
    else ofRatio (s != t) (m * n * Nat.pow 2 k.toNat) 1
  | finite s m _, infinite t => if m = 0 then nan else infinite (s != t)
  | infinite s, finite t n _ => if n = 0 then nan else infinite (s != t)
  | infinite s, infinite t => infinite (s != t)
  | nan, _ => nan
  | _, nan => nan

/-- Whether a number is finite. -/
def isFinite : Binary64 → Bool
  | finite .. => true
  | _ => false

/-- `m · 2^e` as a pair of natural numbers. -/
def ratio (m : Nat) (e : Int) : Nat × Nat :=
  if e < 0 then (m, Nat.pow 2 (-e).toNat) else (m * Nat.pow 2 e.toNat, 1)

/-- The nearest integer, a tie to the even one; only a finite number has one. -/
def round? : Binary64 → Option Int
  | finite s m e =>
    let (n, d) := ratio m e
    let k := roundQuotient n d
    some (if s then -(k : Int) else k)
  | _ => none

/-- The integer part, towards zero; only a finite number has one. -/
def truncate? : Binary64 → Option Int
  | finite s m e =>
    let (n, d) := ratio m e
    some (if s then -((n / d : Nat) : Int) else (n / d : Nat))
  | _ => none

end Binary64

end Decouple
