import Decouple.Http.Label.Allowed
import Decouple.Http.Punycode
import Decouple.Text.Composition
import Decouple.Text.Writing

/-!
# Labels

A label is a part of a host's name between dots.  Its code points are ones that any label may hold,
or ones that fit only with certain others around them; it is in composed form, starts with no mark,
has hyphens only where they mean nothing else, and when it holds letters that are written leftward
it is written leftward as a whole.  A label that is not ASCII has an ASCII form with a start that
marks it.
-/

namespace Decouple

namespace Label

/-! ## Code points that need others around them -/

/-- Whether a sign that takes a vowel away stands before a place. -/
def isAfterVowelKiller (before : Text) : Bool :=
  before.head?.any fun c => c.combiningClass = CodePoint.vowelKiller

/-- Whether the nearest code point on one side of a place that is not looked through is in a
class. -/
def nearest (p : CodePoint → Bool) (side : Text) : Bool :=
  (List.find? (fun c => !c.isTransparent) side).any p

/-- Whether a code point fits that some labels may hold. `before` is what stands before it, nearest
first, and `after` what follows it. -/
def fitsBetween (before : Text) (c : CodePoint) (after : Text) : Bool :=
  if c.val = 0x200C then
    isAfterVowelKiller before ||
      nearest CodePoint.joinsNext before && nearest CodePoint.joinsPrevious after
  else if c.val = 0x200D then isAfterVowelKiller before
  else if c.val = 0xB7 then before.head? = some 'l' && after.head? = some 'l'
  else if c.val = 0x375 then after.head?.any CodePoint.isGreek
  else if c.val = 0x5F3 ∨ c.val = 0x5F4 then before.head?.any CodePoint.isHebrew
  else if c.val = 0x30FB then (before ++ after).any CodePoint.isJapanese
  else if 0x660 ≤ c.val ∧ c.val ≤ 0x669 then
    (before ++ after).all fun d => d.val < 0x6F0 || 0x6F9 < d.val
  else if 0x6F0 ≤ c.val ∧ c.val ≤ 0x6F9 then
    (before ++ after).all fun d => d.val < 0x660 || 0x669 < d.val
  else false

/-- Whether each code point of a text fits, with `before` in front of the text, nearest first. -/
def allFit (before : Text) : Text → Bool
  | [] => true
  | c :: after => (isAllowed c || fitsBetween before c after) && allFit (c :: before) after

/-! ## Direction -/

/-- Whether a text is to be checked for its direction. -/
def hasLeftward (t : Text) : Bool :=
  t.any fun c => c.direction = .leftward || c.direction = .leftwardDigit

/-- Whether a leftward text may end so, marks left aside. -/
def endsLeftward (t : Text) : Bool :=
  (t.reverse.find? fun c => c.direction ≠ .mark).any fun c =>
    c.direction ≠ .neutral && c.direction ≠ .rightward

/-- Whether a text is written leftward as a whole, with digits of one kind. -/
def isLeftward (t : Text) : Bool :=
  t.head?.any (·.direction = .leftward) && t.all (·.direction ≠ .rightward) && endsLeftward t &&
    !(t.any (·.direction = .digit) && t.any (·.direction = .leftwardDigit))

/-! ## Labels -/

/-- Whether hyphens stand neither at an end nor at both of the places that mark an ASCII form. -/
def hyphensFit (t : Text) : Bool :=
  t.head? ≠ some '-' && t.getLast? ≠ some '-' && (t.drop 2).take 2 ≠ ("--" : Text)

/-- Whether a text is a label. -/
def isValid (t : Text) : Bool :=
  !t.isEmpty && Text.composed t = t && hyphensFit t && !t.head?.any CodePoint.isMark &&
    allFit [] t && (!hasLeftward t || isLeftward t)

/-- What the ASCII form of a label starts with. -/
def start : Text := "xn--"

/-- The most code points that an ASCII form may have. -/
def maxLength : Nat := 63

/-- Whether an ASCII text is a label or the ASCII form of one. -/
def isAsciiForm (t : Text) : Bool :=
  match Text.dropStart? start t with
  | some written =>
    !written.isEmpty && written.getLast? ≠ some '-' && (Punycode.decode? written).any isValid
  | none => isValid t

/-- The ASCII form of a label. -/
def toAscii? (t : Text) : Option Text :=
  let isAscii := t.all CodePoint.isAscii
  let form : Text := if isAscii then t else start ++ Punycode.encode t
  if (if isAscii then isAsciiForm t else isValid t) && form.length ≤ maxLength then some form
  else none

end Label

end Decouple
