import Decouple.Text.Parts

/-!
# Names in short

Neighbouring code points have names that share most of their words.  A table of names holds, for
each run of neighbours, the first of them and lines with the entries of all, commas between them.
An entry starts with a hexadecimal digit: how many words it takes from the start of the name
before it.  Words of its own follow.  A plus sign and another such digit at its end say how many
words it takes from the end of the name before it.
-/

namespace Decouple

namespace UnicodeName

/-- The number that a text starts with, one hexadecimal digit long; nought if there is none. -/
def count (t : Text) : Nat := (t.head?.bind CodePoint.hexValue?).getD 0

/-- The words of an entry, after a name with the words `before`. -/
def wordsOf (before : List Text) (entry : Text) : List Text :=
  let own := Text.beforeFirst '+' (entry.drop 1)
  before.take (count entry) ++ (if own.isEmpty then [] else Text.splitOn ' ' own) ++
    before.drop (before.length - count (Text.afterFirst '+' entry))

/-- How many entries stand before the one with these words. -/
def position? (words before : List Text) : List Text → Option Nat
  | [] => none
  | entry :: rest =>
    let found := wordsOf before entry
    if found = words then some 0 else (position? words found rest).map (· + 1)

/-- The number of the code point that has a name in a table. -/
def find? (name : Text) (table : List (Nat × List String)) : Option Nat :=
  table.findSome? fun (first, lines) =>
    let entries := lines.flatMap fun line : String => Text.splitOn ',' line
    (position? (Text.splitOn ' ' name) [] entries).map (first + ·)

end UnicodeName

end Decouple
