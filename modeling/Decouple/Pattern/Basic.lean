import Decouple.Text.Blank
import Decouple.Text.Case
import Decouple.Text.Word

/-!
# Patterns

A pattern describes stretches of text.  Matching is ordered: alternatives are tried from left to
right, a greedy repetition tries its longest stretch first and a lazy one its shortest, and the
first way to match the whole pattern is the match.  `Pattern.run` tries the ways in that order and
hands each end to a continuation, which may refuse it.

Repetition is of a class of code points (`many`) or of a pattern (`again`).
-/

namespace Decouple

open CodePoint (is)

/-- The parts of a match that have a name. -/
inductive Label where
  | quote
  | spec
  | bindings
  | attribute
  | inDoubleQuotes
  | inSingleQuotes
  | opening
  | body
  | keyword
  | names
  | variable
  | owner
  | repository
  | reference
  | epoch
  | release
  | stage
  | stageNumber
  | postRelease
  | devRelease
  | localVersion
  deriving DecidableEq

/-- Whether a repetition takes as much as it can, or as little. -/
inductive Greed where
  /-- As much as it can, and less when the rest does not match then. -/
  | greedy
  /-- As little as it can, and more when the rest does not match then. -/
  | lazy
  /-- As much as it can, and never less. -/
  | whole
  deriving DecidableEq

inductive Pattern where
  /-- The empty stretch. -/
  | empty
  /-- One code point of a class. -/
  | one (p : CodePoint → Bool)
  /-- `least` or more code points of a class. -/
  | many (p : CodePoint → Bool) (least : Nat) (greed : Greed)
  /-- One pattern after the other. -/
  | seq (a b : Pattern)
  /-- The first pattern, or else the second. -/
  | alt (a b : Pattern)
  /-- One or more times, as often as possible. -/
  | again (a : Pattern)
  /-- A part with a name. -/
  | part (label : Label) (a : Pattern)
  /-- The text of a part once more. -/
  | same (label : Label)
  /-- The start of the text or the place after a line feed. -/
  | lineStart
  /-- The end of the text. -/
  | textEnd
  /-- A place with a word code point on exactly one side. -/
  | wordEdge
  /-- A place that `a` matches from; nothing is consumed. -/
  | followedBy (a : Pattern)
  /-- A place that `a` does not match from. -/
  | notFollowedBy (a : Pattern)
  /-- A place that does not come right after a member of the class. -/
  | notAfter (p : CodePoint → Bool)

/-- A place in a text: the code point before it, the text after it and its offset. -/
structure Place where
  before : Option CodePoint
  rest : Text
  offset : Nat

namespace Place

/-- The start of a text. -/
def start (t : Text) : Place := ⟨none, t, 0⟩

/-- The place after the next code point `c`, with `rest` to follow. -/
def after (c : CodePoint) (rest : Text) (p : Place) : Place := ⟨some c, rest, p.offset + 1⟩

/-- The place `n` code points further on. -/
def advance : Nat → Place → Place
  | 0, p => p
  | n + 1, p =>
    match p.rest with
    | [] => p
    | c :: rest => advance n (p.after c rest)

/-- The text from one place to a later one. -/
def textTo (p q : Place) : Text := p.rest.take (q.offset - p.offset)

/-- Whether a member of `f` stands right before the place. -/
def isAfter (f : CodePoint → Bool) (p : Place) : Bool := p.before.any f

/-- Whether a member of `f` stands right after the place. -/
def isBefore (f : CodePoint → Bool) (p : Place) : Bool := p.rest.head?.any f

end Place

/-- A named part of a match: the places where it starts and stops. -/
structure Part where
  start : Place
  stop : Place

namespace Part

/-- The offset of a part. -/
def offset (p : Part) : Nat := p.start.offset

/-- The text of a part. -/
def text (p : Part) : Text := p.start.textTo p.stop

end Part

/-- The named parts found so far, latest first. -/
abbrev Parts := List (Label × Part)

namespace Pattern

variable {α : Type}

/-- The longest stretch first: ends of a stretch of members of `p`, at least `least` of them. -/
def runGreedy (p : CodePoint → Bool) (next : Place → Option α) :
    Nat → Option CodePoint → Text → Nat → Option α
  | 0, before, [], offset => next ⟨before, [], offset⟩
  | _ + 1, _, [], _ => none
  | least, before, c :: rest, offset =>
    match if p c then runGreedy p next (least - 1) (some c) rest (offset + 1) else none with
    | some r => some r
    | none => if least = 0 then next ⟨before, c :: rest, offset⟩ else none

/-- The shortest stretch first. -/
def runLazy (p : CodePoint → Bool) (next : Place → Option α) :
    Nat → Option CodePoint → Text → Nat → Option α
  | 0, before, [], offset => next ⟨before, [], offset⟩
  | _ + 1, _, [], _ => none
  | least, before, c :: rest, offset =>
    match if least = 0 then next ⟨before, c :: rest, offset⟩ else none with
    | some r => some r
    | none => if p c then runLazy p next (least - 1) (some c) rest (offset + 1) else none

/-- All of a stretch: its end, if it has at least `least` members of `p`. -/
def runWhole (p : CodePoint → Bool) (next : Place → Option α) :
    Nat → Option CodePoint → Text → Nat → Option α
  | 0, before, [], offset => next ⟨before, [], offset⟩
  | _ + 1, _, [], _ => none
  | least, before, c :: rest, offset =>
    if p c then runWhole p next (least - 1) (some c) rest (offset + 1)
    else if least = 0 then next ⟨before, c :: rest, offset⟩
    else none

/-- As many rounds of `round` as possible, at least one; `fuel` bounds their number. -/
def runAgain (round : Place → Parts → (Place → Parts → Option α) → Option α)
    (next : Place → Parts → Option α) : Nat → Place → Parts → Option α
  | 0, _, _ => none
  | fuel + 1, place, parts =>
    round place parts fun place parts =>
      match runAgain round next fuel place parts with
      | some r => some r
      | none => next place parts

/-- Try the ways to match from a place, and give the first end that `next` accepts. -/
def run : Pattern → {α : Type} → Place → Parts → (Place → Parts → Option α) → Option α
  | empty, _, place, parts, next => next place parts
  | one p, _, place, parts, next =>
    match place.rest with
    | [] => none
    | c :: rest => if p c then next (place.after c rest) parts else none
  | many p least .greedy, _, place, parts, next =>
    runGreedy p (next · parts) least place.before place.rest place.offset
  | many p least .lazy, _, place, parts, next =>
    runLazy p (next · parts) least place.before place.rest place.offset
  | many p least .whole, _, place, parts, next =>
    runWhole p (next · parts) least place.before place.rest place.offset
  | seq a b, _, place, parts, next => run a place parts fun place parts => run b place parts next
  | alt a b, _, place, parts, next =>
    match run a place parts next with
    | some r => some r
    | none => run b place parts next
  | again a, _, place, parts, next =>
    runAgain (fun place parts next => run a place parts next) next (place.rest.length + 1) place
      parts
  | part label a, _, place, parts, next =>
    run a place parts fun stop parts =>
      next stop ((label, ⟨place, stop⟩) :: parts)
  | same label, _, place, parts, next =>
    match parts.lookup label with
    | none => none
    | some p =>
      if p.text.isPrefixOf place.rest then next (place.advance p.text.length) parts else none
  | lineStart, _, place, parts, next =>
    if place.before.all (is '\n') then next place parts else none
  | textEnd, _, place, parts, next => if place.rest.isEmpty then next place parts else none
  | wordEdge, _, place, parts, next =>
    if place.isAfter CodePoint.isWord != place.isBefore CodePoint.isWord then next place parts
    else none
  | followedBy a, _, place, parts, next =>
    match (run a place parts fun _ parts => some parts : Option Parts) with
    | some parts => next place parts
    | none => none
  | notFollowedBy a, _, place, parts, next =>
    match (run a place parts fun _ _ => some () : Option Unit) with
    | some _ => none
    | none => next place parts
  | notAfter p, _, place, parts, next => if place.isAfter p then none else next place parts

/-! ## Building patterns -/

instance : HAppend Pattern Pattern Pattern := ⟨seq⟩

instance : HOr Pattern Pattern Pattern := ⟨alt⟩

/-- Patterns one after the other. -/
def sequence : List Pattern → Pattern
  | [] => empty
  | [a] => a
  | a :: as => seq a (sequence as)

/-- The first of some patterns that matches; none of no patterns does. -/
def choice : List Pattern → Pattern
  | [] => one fun _ => false
  | [a] => a
  | a :: as => alt a (choice as)

/-- Just this text. -/
def literal (t : Text) : Pattern := sequence (t.map fun c => one (is c))

/-- This text, letters of either case. -/
def literalAnyCase (t : Text) : Pattern := sequence (t.map fun c => one (CodePoint.sameLetter c))

/-- The pattern if it matches, and otherwise nothing. -/
def optional (a : Pattern) : Pattern := alt a empty

/-- Any number of members of a class, as many as possible. -/
def any (p : CodePoint → Bool) : Pattern := many p 0 .greedy

/-- At least one member of a class, as many as possible. -/
def some' (p : CodePoint → Bool) : Pattern := many p 1 .greedy

/-- All white space that there is. -/
def blanks : Pattern := many CodePoint.isBlank 0 .whole

/-- All white space that there is, at least one code point of it. -/
def gap : Pattern := many CodePoint.isBlank 1 .whole

/-- All spaces and tabs that there are. -/
def indent : Pattern := many CodePoint.isIndent 0 .whole

/-- A line feed, with or without a carriage return before it. -/
def lineBreak : Pattern := seq (optional (one (is '\r'))) (one (is '\n'))

end Pattern

end Decouple
