import Decouple.Text.CodePoint

/-!
# Lines

A line ends at a line feed, a carriage return, both together, a vertical tab, a form feed, one of
the separators U+001C to U+001E, U+0085, U+2028 or U+2029.  `lines` keeps each ending beside its
line, so that writing all of them one after the other gives the text back.
-/

namespace Decouple

/-- A line and what ends it; only a last line may have no ending. -/
structure Line where
  body : Text
  ending : Text
  deriving DecidableEq

namespace CodePoint

/-- The code points that end a line on their own. -/
def endsLine (c : CodePoint) : Bool :=
  (10 ≤ c.val && c.val ≤ 13) || (28 ≤ c.val && c.val ≤ 30) || c.val == 0x85 ||
    c.val == 0x2028 || c.val == 0x2029

end CodePoint

namespace Line

/-- The line as it stands in its text. -/
def whole (l : Line) : Text := l.body ++ l.ending

/-- One more code point before the first of some lines; it ends no line. -/
def extend (c : CodePoint) : List Line → List Line
  | [] => [⟨[c], []⟩]
  | l :: ls => ⟨c :: l.body, l.ending⟩ :: ls

theorem whole_extend (c : CodePoint) (ls : List Line) :
    (extend c ls).flatMap whole = c :: ls.flatMap whole := by
  cases ls <;> simp [extend, whole]

end Line

namespace Text

/-- The lines of a text. -/
def lines : Text → List Line
  | [] => []
  | [c] => if c.endsLine then [⟨[], [c]⟩] else [⟨[c], []⟩]
  | c :: d :: rest =>
    if c = '\r' ∧ d = '\n' then ⟨[], [c, d]⟩ :: lines rest
    else if c.endsLine then ⟨[], [c]⟩ :: lines (d :: rest)
    else Line.extend c (lines (d :: rest))

/-- The lines of a text, each with its ending, are a cut of it. -/
theorem whole_lines (t : Text) : (lines t).flatMap Line.whole = t := by
  fun_induction lines t with
  | case1 => rfl
  | case2 c h => simp [Line.whole]
  | case3 c h => simp [Line.whole]
  | case4 c d rest h ih => simp [Line.whole, ih]
  | case5 c d rest h _ ih => simp [Line.whole, ih]
  | case6 c d rest h _ ih => rw [Line.whole_extend, ih]

end Text

end Decouple
