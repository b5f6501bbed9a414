import Decouple.Text.CodePoint

/-!
# Cutting and joining texts

Searching for a text inside another, splitting at a separator and joining the parts again.
-/

namespace Decouple

namespace Text

/-- The text without `head` at its start, when it starts so. -/
def dropStart? (head t : Text) : Option Text :=
  if head.isPrefixOf t then some (t.drop head.length) else none

/-- The text without `tail` at its end, when it ends so. -/
def dropEnd? (tail t : Text) : Option Text :=
  if tail.isSuffixOf t then some (t.take (t.length - tail.length)) else none

/-- Whether the text starts with `head`. -/
def startsWith (t head : Text) : Bool := head.isPrefixOf t

/-- Whether the text ends with `tail`. -/
def endsWith (t tail : Text) : Bool := tail.isSuffixOf t

/-- One more code point before the first of some parts. -/
def extendPart (c : CodePoint) : List Text → List Text
  | [] => [[c]]
  | part :: parts => (c :: part) :: parts

/-- The parts between members of `p`; one more than there are members. -/
def splitWhere (p : CodePoint → Bool) : Text → List Text
  | [] => [[]]
  | c :: rest => if p c then [] :: splitWhere p rest else extendPart c (splitWhere p rest)

/-- The parts between occurrences of one code point. -/
def splitOn (sep : CodePoint) (t : Text) : List Text := splitWhere (· = sep) t

/-- The parts between occurrences of `sep` from left to right, after `skip` code points. -/
def splitOnTextFrom (sep : Text) : Nat → Text → List Text
  | _, [] => [[]]
  | skip + 1, _ :: rest => splitOnTextFrom sep skip rest
  | 0, c :: rest =>
    if sep.isPrefixOf (c :: rest) then [] :: splitOnTextFrom sep (sep.length - 1) rest
    else extendPart c (splitOnTextFrom sep 0 rest)

/-- The parts between occurrences of a text, found from left to right. -/
def splitOnText (sep t : Text) : List Text := splitOnTextFrom sep 0 t

/-- The offset of the first occurrence of `needle`. -/
def find? (needle : Text) : Text → Option Nat
  | [] => if needle.isEmpty then some 0 else none
  | c :: rest =>
    if needle.isPrefixOf (c :: rest) then some 0 else (find? needle rest).map (· + 1)

/-- What stands before the first `sep`, and what stands after it, if there is one. -/
def cut (sep : CodePoint) (t : Text) : Text × Option Text :=
  match t.dropWhile (· ≠ sep) with
  | [] => (t, none)
  | _ :: after => (t.takeWhile (· ≠ sep), some after)

/-- What stands before the first `sep`; all of the text if there is none. -/
def beforeFirst (sep : CodePoint) (t : Text) : Text := t.takeWhile (· ≠ sep)

/-- What stands after the first `sep`; nothing if there is none. -/
def afterFirst (sep : CodePoint) (t : Text) : Text := (cut sep t).2.getD []

/-- What stands after the last `sep`; all of the text if there is none. -/
def afterLast (sep : CodePoint) (t : Text) : Text :=
  (t.reverse.takeWhile (· ≠ sep)).reverse

/-- What stands before the last `sep`; all of the text if there is none. -/
def beforeLast (sep : CodePoint) (t : Text) : Text :=
  match t.reverse.dropWhile (· ≠ sep) with
  | [] => t
  | _ :: before => before.reverse

/-- What stands before the first occurrence of `needle`; all of the text if there is none. -/
def beforeText (needle t : Text) : Text :=
  match find? needle t with
  | some n => t.take n
  | none => t

/-- The parts with `sep` between them. -/
def join (sep : Text) : List Text → Text
  | [] => []
  | [part] => part
  | part :: parts => part ++ sep ++ join sep parts

/-- The text with every `old` put as `new`. -/
def replaceCodePoint (old new : CodePoint) (t : Text) : Text :=
  t.map fun c => if c = old then new else c

/-- The number of occurrences of one code point. -/
def countOf (c : CodePoint) (t : Text) : Nat := t.count c

/-- The line of an offset, counted from one: line feeds before it, plus one. -/
def lineAt (t : Text) (offset : Nat) : Nat := countOf '\n' (t.take offset) + 1

/-! ## Parts and their text -/

theorem splitWhere_ne_nil (p : CodePoint → Bool) (t : Text) : splitWhere p t ≠ [] := by
  cases t with
  | nil => simp [splitWhere]
  | cons c rest =>
    simp only [splitWhere]
    split
    · simp
    · cases splitWhere p rest <;> simp [extendPart]

theorem join_extendPart (sep : Text) (c : CodePoint) {parts : List Text} (h : parts ≠ []) :
    join sep (extendPart c parts) = c :: join sep parts := by
  match parts, h with
  | [part], _ => rfl
  | part :: next :: parts, _ => simp [extendPart, join]

theorem join_nil_cons (sep : Text) {parts : List Text} (h : parts ≠ []) :
    join sep ([] :: parts) = sep ++ join sep parts := by
  match parts, h with
  | part :: parts, _ => simp [join]

/-- The parts joined by what they were split at are the text. -/
theorem join_splitOn (sep : CodePoint) (t : Text) : join [sep] (splitOn sep t) = t := by
  unfold splitOn
  induction t with
  | nil => rfl
  | cons c rest ih =>
    have parts := splitWhere_ne_nil (· = sep) rest
    simp only [splitWhere]
    split
    · next h =>
      rw [join_nil_cons _ parts, ih]
      simpa [eq_comm] using h
    · rw [join_extendPart _ _ parts, ih]

/-- No part holds what it was split at. -/
theorem not_mem_of_mem_splitOn {sep : CodePoint} {t part : Text} (h : part ∈ splitOn sep t) :
    sep ∉ part := by
  unfold splitOn at h
  induction t generalizing part with
  | nil => simp_all [splitWhere]
  | cons c rest ih =>
    simp only [splitWhere] at h
    split at h
    · rcases List.mem_cons.1 h with rfl | h
      · simp
      · exact ih h
    · next hc =>
      cases hs : splitWhere (· = sep) rest with
      | nil => exact absurd hs (splitWhere_ne_nil _ _)
      | cons first parts =>
        rw [hs] at h ih
        rcases List.mem_cons.1 h with rfl | h
        · have := ih (List.mem_cons_self ..)
          simp_all
          exact fun e => hc e.symm
        · exact ih (List.mem_cons_of_mem _ h)

end Text

end Decouple
