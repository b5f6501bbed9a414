import Decouple.Text.UnicodeName.Basic

/-!
# Escapes

A quoted text may write a code point by a backslash and a letter, by its number in octal or
hexadecimal digits, or by its name.  A backslash before anything else stands for itself.  An
escape that is begun and not completed makes the text unreadable, and so does a code point that no
source text may hold: a surrogate or NUL.
-/

namespace Decouple

namespace Escape

/-- Code points that a backslash before them turns into others. -/
def letters : List (CodePoint × Nat) := [
  ('\\', 92), ('\'', 39), ('"', 34), ('a', 7), ('b', 8), ('f', 12), ('n', 10), ('r', 13),
  ('t', 9), ('v', 11)]

/-- How many hexadecimal digits follow a letter after a backslash. -/
def widths : List (CodePoint × Nat) := [('x', 2), ('u', 4), ('U', 8)]

/-- The digits from `0` to `7`. -/
def isOctal (c : CodePoint) : Bool := 48 ≤ c.val && c.val ≤ 55

/-- The value of octal digits. -/
def octal (digits : Text) : Nat := digits.foldl (fun n c => n * 8 + (c.val - 48)) 0

/-- The code point with the number that so many hexadecimal digits at the start of a text give. -/
def numbered? (width : Nat) (t : Text) : Option CodePoint := do
  let digits := t.take width
  let n ← UnicodeName.hexadecimal? digits
  if digits.length = width && n < 0x110000 then some (CodePoint.ofNat n) else none

/-- The name in braces that a text starts with. -/
def braced? (t : Text) : Option Text := do
  let inner ← Text.dropStart? "\x7b" t
  let (name, after) := Text.cut '\x7d' inner
  after.map fun _ => name

/-- What an escape stands for and how many code points it takes; `t` follows its backslash. -/
def one? (t : Text) : Option (Text × Nat) :=
  match t with
  | [] => none
  | c :: rest =>
    let digits := (t.take 3).takeWhile isOctal
    if !digits.isEmpty then some ([CodePoint.ofNat (octal digits)], digits.length)
    else if c = 'N' then do
      let name ← braced? rest
      let named ← CodePoint.named? name
      some ([named], name.length + 3)
    else
      match widths.lookup c, letters.lookup c with
      | some width, _ => (numbered? width rest).map fun d => ([d], width + 1)
      | none, some n => some ([CodePoint.ofNat n], 1)
      | none, none => some (['\\', c], 1)

/-- The text with its escapes replaced by what they stand for. -/
def resolve? (t : Text) : Option Text :=
  match t with
  | [] => some []
  | c :: rest =>
    if c = '\\' then
      match one? rest with
      | none => none
      | some (value, length) => (resolve? (rest.drop length)).map (value ++ ·)
    else (resolve? rest).map (c :: ·)
  termination_by t.length
  decreasing_by all_goals simp only [List.length_drop, List.length_cons]; omega

/-- The text that a quoted text stands for. -/
def read? (t : Text) : Option Text :=
  if t.any fun c => c.isSurrogate || c.val = 0 then none else resolve? t

end Escape

end Decouple
