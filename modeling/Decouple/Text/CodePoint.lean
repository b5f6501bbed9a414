import Decouple.Sorting

/-!
# Text as a list of code points

`CodePoint` ranges over all of Unicode's code space.  Surrogates are members: a JSON escape may
name one, and such a text has to be carried until it is written out, where it is refused.
`Text` is a list of code points, and `Text` literals are ordinary string literals.

The classes here are the ASCII ones; wider classes have modules of their own
(`Text/Blank.lean`, `Text/Word.lean`, `Text/Numeral.lean`).
-/

namespace Decouple

/-- A Unicode code point, surrogates included. -/
structure CodePoint where
  val : Nat
  val_lt : val < 0x110000
  deriving DecidableEq

/-- A text, first code point first. -/
abbrev Text := List CodePoint

/-- Named once, so that all decisions about members of lists of texts rest on the same instance. -/
instance Text.instLawfulBEq : LawfulBEq Text := inferInstance

namespace CodePoint

/-- The code point of a character. -/
def ofChar (c : Char) : CodePoint :=
  ⟨c.toNat, by
    have h := c.valid
    simp only [Char.toNat]
    rcases h with h | h <;> omega⟩

instance : Coe Char CodePoint := ⟨ofChar⟩

/-- The code point with number `n`; numbers beyond the code space give U+FFFD. -/
def ofNat (n : Nat) : CodePoint :=
  if h : n < 0x110000 then ⟨n, h⟩ else ⟨0xFFFD, by decide⟩

/-- The character of a code point; a surrogate has none and gives U+FFFD. -/
def toChar (c : CodePoint) : Char :=
  if c.val < 0xD800 ∨ 0xDFFF < c.val then Char.ofNat c.val else Char.ofNat 0xFFFD

/-- Surrogates are the code points that no encoding form represents on their own. -/
def isSurrogate (c : CodePoint) : Bool :=
  0xD800 ≤ c.val && c.val ≤ 0xDFFF

instance : LT CodePoint := ⟨fun a b => a.val < b.val⟩

instance (a b : CodePoint) : Decidable (a < b) :=
  inferInstanceAs (Decidable (a.val < b.val))

instance : LE CodePoint := ⟨fun a b => a.val ≤ b.val⟩

instance (a b : CodePoint) : Decidable (a ≤ b) :=
  inferInstanceAs (Decidable (a.val ≤ b.val))

instance : Inhabited CodePoint := ⟨'?'⟩

theorem ext {a b : CodePoint} (h : a.val = b.val) : a = b := by
  cases a; cases b; simpa using h

theorem val_ofNat {n : Nat} (h : n < 0x110000) : (ofNat n).val = n := by
  rw [ofNat, dif_pos h]

theorem ofNat_val (c : CodePoint) : ofNat c.val = c :=
  ext (val_ofNat c.val_lt)

end CodePoint

/-- The code points of a string. -/
def Text.ofString (s : String) : Text := s.toList.map CodePoint.ofChar

instance : Coe String Text := ⟨Text.ofString⟩

namespace CodePoint

/-! ## ASCII classes -/

/-- ASCII code points. -/
def isAscii (c : CodePoint) : Bool := c.val < 128

/-- The digits `0` to `9`. -/
def isDigit (c : CodePoint) : Bool := 48 ≤ c.val && c.val ≤ 57

/-- The letters `A` to `Z`. -/
def isUpper (c : CodePoint) : Bool := 65 ≤ c.val && c.val ≤ 90

/-- The letters `a` to `z`. -/
def isLower (c : CodePoint) : Bool := 97 ≤ c.val && c.val ≤ 122

/-- ASCII letters of either case. -/
def isLetter (c : CodePoint) : Bool := c.isUpper || c.isLower

/-- ASCII letters and digits. -/
def isLetterOrDigit (c : CodePoint) : Bool := c.isLetter || c.isDigit

/-- The value of an ASCII hexadecimal digit of either case. -/
def hexValue? (c : CodePoint) : Option Nat :=
  if c.isDigit then some (c.val - 48)
  else if 97 ≤ c.val && c.val ≤ 102 then some (c.val - 87)
  else if 65 ≤ c.val && c.val ≤ 70 then some (c.val - 55)
  else none

/-- The class with the one member `k`. -/
def is (k c : CodePoint) : Bool := c = k

/-- The class of the code points of a text. -/
def isIn (t : Text) (c : CodePoint) : Bool := t.contains c

/-- The class of the code points that a text does not hold. -/
def isNotIn (t : Text) (c : CodePoint) : Bool := !t.contains c

/-- Whether `n` lies in one of the closed ranges. -/
def inRanges (ranges : List (Nat × Nat)) (n : Nat) : Bool :=
  ranges.any fun (low, high) => low ≤ n && n ≤ high

end CodePoint

namespace Text

/-- The string of a text, with surrogates replaced by U+FFFD. -/
def toString (t : Text) : String := String.ofList (t.map CodePoint.toChar)

/-- Texts are ordered by code point, a proper beginning before what it begins. -/
def le (a b : Text) : Bool := decide (a ≤ b)

/-- The texts in order, equal ones kept. -/
def sort (ts : List Text) : List Text := Sorting.sort le ts

/-- The members in order of first occurrence, each once. -/
def distinct (ts : List Text) : List Text :=
  ts.foldl (fun seen t => if t ∈ seen then seen else seen ++ [t]) []

end Text

end Decouple
