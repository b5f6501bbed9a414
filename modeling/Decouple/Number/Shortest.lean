import Decouple.Number.Binary64
import Decouple.Text.Numeral

/-!
# Shortest decimals

The fewest decimal digits that read back as a given number, and among those the nearest.  The
reals that round to a number form an interval, closed when its mantissa is even; for one, two, …
digits the two neighbours of the number on that decimal grid are tried against it.

How the digits are laid out is a `DecimalLayout`.
-/

namespace Decouple

namespace Shortest

/-- A positive number as `num / den`, with the ends of the interval that rounds to it. -/
structure Interval where
  num : Nat
  den : Nat
  low : Nat
  high : Nat
  closed : Bool

/-- The interval of `m · 2^e`, all over one denominator. -/
def interval (m : Nat) (e : Int) : Interval :=
  let (n, d) := Binary64.ratio m e
  let (half, _) := Binary64.ratio 1 e
  let below := if m = Nat.pow 2 52 ∧ Binary64.leastExponent < e then half else 2 * half
  ⟨4 * n, 4 * d, 4 * n - below, 4 * n + 2 * half, m % 2 = 0⟩

/-- Whether `n / d` rounds to the number. -/
def Interval.holds (i : Interval) (n d : Nat) : Bool :=
  if i.closed then i.low * d ≤ n * i.den && n * i.den ≤ i.high * d
  else i.low * d < n * i.den && n * i.den < i.high * d

/-- `n / d` divided by `10^p` as a pair of natural numbers. -/
def overPower (n d : Nat) (p : Int) : Nat × Nat :=
  if p < 0 then (n * Nat.pow 10 (-p).toNat, d) else (n, d * Nat.pow 10 p.toNat)

/-- `k` such that the number lies in `[10^(k-1), 10^k)`, searched for upwards from `k`. -/
def magnitudeFrom (i : Interval) : Nat → Int → Int
  | 0, k => k
  | fuel + 1, k =>
    let (n, d) := overPower i.num i.den k
    if n < d then k else magnitudeFrom i fuel (k + 1)

/-- The decimal magnitude of a number, from an estimate that is too low by at most two. -/
def magnitude (i : Interval) : Int :=
  let bits : Int := (i.num.log2 : Int) - i.den.log2
  magnitudeFrom i 8 (Int.fdiv (bits * 30103) 100000 - 2)

/-- The grid point `f · 10^p` as a ratio. -/
def gridPoint (f : Nat) (p : Int) : Nat × Nat :=
  if p < 0 then (f, Nat.pow 10 (-p).toNat) else (f * Nat.pow 10 p.toNat, 1)

/-- The neighbours below and above on the grid `10^p`, nearer one first. -/
def neighbours (i : Interval) (p : Int) : List Nat :=
  let (n, d) := overPower i.num i.den p
  let f := n / d
  let r := n % d
  if 2 * r < d ∨ (2 * r = d ∧ f % 2 = 0) then [f, f + 1] else [f + 1, f]

/-- The neighbour on the coarsest grid that has one in the interval, and that grid. -/
def search (i : Interval) (k : Int) : Nat → Nat → Nat × Int
  | 0, digits => ((neighbours i (k - digits)).headD 0, k - digits)
  | fuel + 1, digits =>
    let p := k - digits
    let fits := (neighbours i p).find? fun f => let (n, d) := gridPoint f p; i.holds n d
    match fits with
    | some f => (f, p)
    | none => search i k fuel (digits + 1)

/-- The shortest decimal `(f, p)`, meaning `f · 10^p`, of a positive `m · 2^e`. -/
def decimal (m : Nat) (e : Int) : Nat × Int :=
  let i := interval m e
  search i (magnitude i) 17 1

end Shortest

/-- How the digits of a number are laid out. -/
structure DecimalLayout where
  /-- Least position of the point, counted from the first digit, of a positional numeral. -/
  leastPoint : Int
  /-- Greatest such position. -/
  greatestPoint : Int
  /-- Least number of digits of an exponent. -/
  exponentDigits : Nat
  notANumber : Text
  infinity : Text

namespace DecimalLayout

/-- A numeral with the point after `point` of its digits; whole numbers end in `.0`. -/
def positional (digits : Text) (point : Int) : Text :=
  if point ≤ 0 then "0." ++ Text.zeros (-point).toNat ++ digits
  else
    let whole := (digits ++ Text.zeros (point.toNat - digits.length)).take point.toNat
    let fraction := digits.drop point.toNat
    whole ++ "." ++ (if fraction.isEmpty then Text.zeros 1 else fraction)

/-- A numeral with one digit before the point and an exponent. -/
def scientific (layout : DecimalLayout) (digits : Text) (point : Int) : Text :=
  let mantissa :=
    match digits with
    | [] => []
    | [c] => [c]
    | c :: rest => [c] ++ "." ++ rest
  let e := point - 1
  mantissa ++ "e" ++ (if e < 0 then "-" else "+") ++
    Text.padStart layout.exponentDigits '0' (Text.ofNat e.natAbs)

/-- A number in the layout. -/
def render (layout : DecimalLayout) : Binary64 → Text
  | .nan => layout.notANumber
  | .infinite s => (if s then "-" else "") ++ layout.infinity
  | .finite s m e =>
    let sign : Text := if s then "-" else ""
    if m = 0 then sign ++ "0.0"
    else
      let (f, p) := Shortest.decimal m e
      let all := Text.ofNat f
      let digits := Text.trimDigits all
      let point : Int := p + all.length
      sign ++
        if layout.leastPoint ≤ point ∧ point ≤ layout.greatestPoint then positional digits point
        else scientific layout digits point

end DecimalLayout

end Decouple
