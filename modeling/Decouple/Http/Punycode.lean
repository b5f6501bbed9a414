import Decouple.Text.Parts

/-!
# Names in letters beyond ASCII

A label of a host's name that is not ASCII is written as its ASCII code points followed by the
places and values of the others.  The others are taken in the order of their values; the distance
from one to the next, counted over all values and places on the way, is written in digits of base
36 with thresholds that adapt to the distances so far.  Main statement: the digits of a distance
read back (`readDistance_digits`).
-/

namespace Decouple

namespace Punycode

/-- A digit: the letters, then the ten digits. -/
def digit (n : Nat) : CodePoint := CodePoint.ofNat (if n < 26 then 97 + n else 22 + n)

/-- The threshold of the digit with weight number `k`, between 1 and 26. -/
def threshold (bias k : Nat) : Nat := max 1 (min 26 (k - bias))

theorem threshold_pos (bias k : Nat) : 1 ≤ threshold bias k := by
  unfold threshold; omega

/-- A distance in digits, the least weight first. -/
def digits (bias k n : Nat) : Text :=
  let t := threshold bias k
  if n < t then [digit n]
  else digit (t + (n - t) % (36 - t)) :: digits bias (k + 36) ((n - t) / (36 - t))
termination_by n
decreasing_by
  have := threshold_pos bias k
  have := Nat.div_le_self (n - threshold bias k) (36 - threshold bias k)
  omega

/-- A distance brought below the last threshold, with the number of digits that this saves. -/
def reduced (n : Nat) : Nat × Nat :=
  if 455 < n then
    let (n, saved) := reduced (n / 35)
    (n, saved + 1)
  else (n, 0)
termination_by n
decreasing_by omega

/-- The bias after a distance, when `count` code points are written. -/
def adapted (distance count : Nat) (first : Bool) : Nat :=
  let scaled := if first then distance / 700 else distance / 2
  let (n, saved) := reduced (scaled + scaled / count)
  36 * saved + 36 * n / (n + 38)

/-- A writing on its way. -/
structure Progress where
  written : Text
  distance : Nat
  bias : Nat
  count : Nat

/-- Pass one code point of the label while those of value `n` are written. -/
def pass (basic n : Nat) (p : Progress) (c : CodePoint) : Progress :=
  if c.val < n then { p with distance := p.distance + 1 }
  else if c.val = n then {
    written := p.written ++ digits p.bias 36 p.distance
    distance := 0
    bias := adapted p.distance (p.count + 1) (p.count = basic)
    count := p.count + 1 }
  else p

/-- Write the code points of some values, in their order, none of them below `next`. -/
def writeValues (label : Text) (basic : Nat) : Nat → List Nat → Progress → Progress
  | _, [], p => p
  | next, n :: rest, p =>
    let p := { p with distance := p.distance + (n - next) * (p.count + 1) }
    let p := label.foldl (pass basic n) p
    writeValues label basic (n + 1) rest { p with distance := p.distance + 1 }

/-- The values of the code points that are not ASCII, in order. -/
def values (label : Text) : List Nat :=
  (Sorting.sort (fun a b => a ≤ b) ((label.filter (!·.isAscii)).map CodePoint.val)).eraseDups

/-- A label in ASCII. -/
def encode (label : Text) : Text :=
  let basic := label.filter CodePoint.isAscii
  let start : Text := if basic.isEmpty then [] else basic ++ "-"
  start ++ (writeValues label basic.length 128 (values label) ⟨[], 0, 72, basic.length⟩).written

/-! ## Reading -/

/-- The value of a digit; the case of a letter does not count. -/
def value? (c : CodePoint) : Option Nat :=
  if c.isLower then some (c.val - 97)
  else if c.isUpper then some (c.val - 65)
  else if c.isDigit then some (c.val - 22)
  else none

/-- Read on in a distance of which `n` has been read: the next digit is number `k` and has the
weight `weight`.  The result comes with the text behind the distance. -/
def readDistance (bias k weight n : Nat) : Text → Option (Nat × Text)
  | [] => none
  | c :: rest =>
    match value? c with
    | none => none
    | some d =>
      let t := threshold bias k
      if d < t then some (n + d * weight, rest)
      else readDistance bias (k + 36) (weight * (36 - t)) (n + d * weight) rest

theorem readDistance_length {bias k weight n : Nat} {t : Text} {r : Nat × Text}
    (h : readDistance bias k weight n t = some r) : r.2.length < t.length := by
  induction t generalizing k weight n with
  | nil => simp [readDistance] at h
  | cons c rest ih =>
    simp only [readDistance] at h
    split at h
    · simp at h
    · split at h
      · simp only [Option.some.injEq] at h
        simp [← h]
      · have := ih h
        simp only [List.length_cons]
        omega

/-- Put the code points of the distances in `t` into a label.  The last of them has the value `n`
and stands before the place `place`; `first` says that there is none yet. -/
def insertFrom (n place bias : Nat) (first : Bool) (label t : Text) : Option Text :=
  if t.isEmpty then some label
  else
    match h : readDistance bias 36 1 0 t with
    | none => none
    | some (distance, rest) =>
      let count := label.length + 1
      let n := n + (place + distance) / count
      let place := (place + distance) % count
      if 0x110000 ≤ n then none
      else
        have := readDistance_length h
        insertFrom n (place + 1) (adapted distance count first) false
          (label.take place ++ CodePoint.ofNat n :: label.drop place) rest
  termination_by t.length

/-- The label that an ASCII text writes. -/
def decode? (t : Text) : Option Text :=
  if t.contains '-' then
    insertFrom 128 0 72 true (Text.beforeLast '-' t) (Text.afterLast '-' t)
  else insertFrom 128 0 72 true [] t

/-! ## Reading what is written -/

theorem value?_digit : ∀ n < 36, value? (digit n) = some n := by decide

theorem threshold_le (bias k : Nat) : threshold bias k ≤ 26 := by
  unfold threshold; omega

/-- The digits of a distance read back, whatever follows them. -/
theorem readDistance_digits (bias k weight n d : Nat) (rest : Text) :
    readDistance bias k weight n (digits bias k d ++ rest) = some (n + d * weight, rest) := by
  induction d using Nat.strongRecOn generalizing k weight n with
  | _ d ih =>
    have low := threshold_pos bias k
    have high := threshold_le bias k
    rw [digits]
    split
    · next h => simp [readDistance, value?_digit d (by omega), h]
    · next h =>
      have spread : 0 < 36 - threshold bias k := by omega
      have small := Nat.mod_lt (d - threshold bias k) spread
      have parts := Nat.mod_add_div (d - threshold bias k) (36 - threshold bias k)
      have less := Nat.div_le_self (d - threshold bias k) (36 - threshold bias k)
      simp only [List.cons_append, readDistance]
      rw [value?_digit _ (by omega)]
      simp only [show ¬ threshold bias k + (d - threshold bias k) % (36 - threshold bias k) <
        threshold bias k by omega, if_false]
      rw [ih _ (by omega)]
      congr 2
      generalize (d - threshold bias k) % (36 - threshold bias k) = m at *
      generalize (d - threshold bias k) / (36 - threshold bias k) = q at *
      have whole : d = threshold bias k + m + (36 - threshold bias k) * q := by omega
      rw [whole]
      generalize 36 - threshold bias k = s
      rw [Nat.add_mul (threshold bias k + m), Nat.mul_comm s q, Nat.mul_assoc q,
        Nat.mul_comm s weight, Nat.add_assoc]

end Punycode

end Decouple
