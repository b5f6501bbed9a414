import Decouple.Pattern.Basic

/-!
# Matches in a text

A text is read from left to right and cut into the matches of a pattern and the code points
between them.  `Pattern.segments` is that cut; finding all matches and replacing them are read off
it.  A match that consumes nothing counts as none.  An edit looks at each match and either leaves it
or puts something in its place and makes a note.
-/

namespace Decouple

/-- A match: where it starts and stops, and its named parts. -/
structure Match where
  start : Place
  stop : Place
  parts : Parts

namespace Match

/-- The matched text. -/
def text (m : Match) : Text := m.start.textTo m.stop

/-- The offset of the match. -/
def offset (m : Match) : Nat := m.start.offset

/-- A named part, if the way that matched went through it. -/
def part? (label : Label) (m : Match) : Option Part := m.parts.lookup label

/-- The text of a named part; empty if the way that matched did not go through it. -/
def textOf (label : Label) (m : Match) : Text := ((m.part? label).map Part.text).getD []

/-- The offset of a named part; the start of the match if there is none. -/
def offsetOf (label : Label) (m : Match) : Nat :=
  ((m.part? label).map Part.offset).getD m.offset

end Match

/-- A stretch of a text that has been searched. -/
inductive Segment where
  /-- A code point outside every match. -/
  | kept (c : CodePoint)
  /-- A match. -/
  | found (m : Match)

namespace Segment

/-- The text of a segment. -/
def text : Segment → Text
  | kept c => [c]
  | found m => m.text

/-- The match of a segment. -/
def match? : Segment → Option Match
  | kept _ => none
  | found m => some m

/-- What stands in a segment's place when each match is replaced. -/
def replaced (f : Match → Text) : Segment → Text
  | kept c => [c]
  | found m => f m

end Segment

namespace Pattern

/-- The match that starts at a place. -/
def matchAt? (pat : Pattern) (place : Place) : Option Match :=
  pat.run place [] fun stop parts => some ⟨place, stop, parts⟩

/-- The match of a whole text. -/
def matchWhole? (pat : Pattern) (t : Text) : Option Match :=
  (seq pat textEnd).matchAt? (Place.start t)

/-- The match that starts where the text starts. -/
def matchStart? (pat : Pattern) (t : Text) : Option Match := pat.matchAt? (Place.start t)

/-- Whether all of a text matches. -/
def matchesWhole (pat : Pattern) (t : Text) : Bool := (pat.matchWhole? t).isSome

/-- The cut of the text after a place; `fuel` is the length of that text. -/
def segmentsFrom (pat : Pattern) : Nat → Place → List Segment
  | 0, _ => []
  | fuel + 1, place =>
    match place.rest with
    | [] => []
    | c :: rest =>
      match pat.matchAt? place with
      | some m =>
        if place.offset < m.stop.offset then .found m :: segmentsFrom pat fuel m.stop
        else .kept c :: segmentsFrom pat fuel (place.after c rest)
      | none => .kept c :: segmentsFrom pat fuel (place.after c rest)

/-- A text cut into matches and the code points between them. -/
def segments (pat : Pattern) (t : Text) : List Segment :=
  pat.segmentsFrom t.length (Place.start t)

/-- The matches of a text, from left to right. -/
def findAll (pat : Pattern) (t : Text) : List Match := (pat.segments t).filterMap Segment.match?

/-- The first match of a text. -/
def find? (pat : Pattern) (t : Text) : Option Match := (pat.findAll t).head?

/-- Whether a text has a match. -/
def occursIn (pat : Pattern) (t : Text) : Bool := (pat.find? t).isSome

/-- The text with every match replaced. -/
def replace (pat : Pattern) (f : Match → Text) (t : Text) : Text :=
  (pat.segments t).flatMap (Segment.replaced f)

/-- The text without its matches. -/
def erase (pat : Pattern) (t : Text) : Text := pat.replace (fun _ => []) t

/-- The text in which the matches that `doomed` picks are replaced by nothing. -/
def eraseWhere (pat : Pattern) (doomed : Match → Bool) (t : Text) : Text :=
  pat.replace (fun m => if doomed m then [] else m.text) t

/-! ## Edits -/

/-- The text with the chosen matches replaced, and the notes in the order of the text. -/
def edit {ν : Type} (pat : Pattern) (choose : Match → Option (Text × ν)) (t : Text) : Text × List ν :=
  let cut := pat.segments t
  (cut.flatMap (Segment.replaced fun m => ((choose m).map Prod.fst).getD m.text),
    (cut.filterMap Segment.match?).filterMap fun m => (choose m).map Prod.snd)

end Pattern

/-- An edit followed by another, notes one after the other. -/
def andThen {ν : Type} (first : Text × List ν) (second : Text → Text × List ν) : Text × List ν :=
  let (t, notes) := second first.1
  (t, first.2 ++ notes)

end Decouple
