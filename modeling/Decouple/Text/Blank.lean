import Decouple.Text.CodePoint

/-!
# White space and trimming

`isBlank` is Unicode white space together with the four information separators U+001C to U+001F.
Trimming removes a class of code points from one end or from both.
-/

namespace Decouple

namespace CodePoint

/-- White space. -/
def isBlank (c : CodePoint) : Bool :=
  (9 ≤ c.val && c.val ≤ 13) || (28 ≤ c.val && c.val ≤ 32) || c.val == 0x85 || c.val == 0xA0 ||
    c.val == 0x1680 || (0x2000 ≤ c.val && c.val ≤ 0x200A) || c.val == 0x2028 ||
    c.val == 0x2029 || c.val == 0x202F || c.val == 0x205F || c.val == 0x3000

/-- The two blanks that stay within a line of a source file: space and tab. -/
def isIndent (c : CodePoint) : Bool := c.val == 32 || c.val == 9

theorem isBlank_of_isIndent {c : CodePoint} (h : c.isIndent = true) : c.isBlank = true := by
  simp only [isIndent, Bool.or_eq_true, beq_iff_eq] at h
  rcases h with h | h <;> simp [isBlank, h]

end CodePoint

namespace Text

/-- The text without its longest beginning of members of `p`. -/
def trimStartOf (p : CodePoint → Bool) (t : Text) : Text := t.dropWhile p

/-- The text without its longest ending of members of `p`. -/
def trimEndOf (p : CodePoint → Bool) (t : Text) : Text := (t.reverse.dropWhile p).reverse

/-- The text without members of `p` at either end. -/
def trimOf (p : CodePoint → Bool) (t : Text) : Text := trimEndOf p (trimStartOf p t)

/-- The text without white space at either end. -/
def trim (t : Text) : Text := trimOf CodePoint.isBlank t

/-- Whether nothing but white space is there. -/
def isBlank (t : Text) : Bool := t.all CodePoint.isBlank

end Text

end Decouple
