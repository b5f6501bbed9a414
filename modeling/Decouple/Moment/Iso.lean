import Decouple.Moment
import Decouple.Text.Parts
import Decouple.Text.Quoted

/-!
# Reading moments

A moment is written as a date, one code point of any kind, and a time with an optional offset from
universal time.  A date names a day of a month or a day of a week, with or without hyphens.  A
time has hours and as many as it likes of minutes, seconds and a fraction, with or without colons;
an offset is a signed time.  The offset is checked and then left out: the moment is the one that
is written.

The fields of a time are read up to the offset.  What remains of them then must be digits of a
fraction, except that before an offset a last stray code point is not looked at.
-/

namespace Decouple

open CodePoint (is isIn isDigit)

/-- Why a text gives no moment. -/
inductive MomentError where
  /-- It does not have the form of a moment. -/
  | malformed (t : Text)
  /-- The offset, in microseconds, is a day or more. -/
  | offset (microseconds : Int)
  | year (n : Nat)
  | month
  | day
  | hour
  | minute
  | second
  deriving DecidableEq

namespace MomentError

/-- A stretch of time in days, seconds of a day and microseconds, those that are not zero. -/
def stretch (microseconds : Int) : Text :=
  let seconds := microseconds / 1000000
  let parts : List (Text × Int) := [
    ("days", seconds / 86400), ("seconds", seconds % 86400),
    ("microseconds", microseconds % 1000000)]
  let shown := (parts.filter (·.2 ≠ 0)).map fun (name, n) => name ++ "=" ++ Text.ofInt n
  "datetime.timedelta(" ++ Text.join ", " shown ++ ")"

/-- An error in words. -/
def message : MomentError → Text
  | malformed t => "Invalid isoformat string: " ++ t.quoted
  | offset n =>
    "offset must be a timedelta strictly between -timedelta(hours=24) and timedelta(hours=24), not "
      ++ stretch n ++ "."
  | year n => "year " ++ Text.ofNat n ++ " is out of range"
  | month => "month must be in 1..12"
  | day => "day is out of range for month"
  | hour => "hour must be in 0..23"
  | minute => "minute must be in 0..59"
  | second => "second must be in 0..59"

end MomentError

namespace Moment

/-! ## Dates -/

/-- The number that `n` digits at the start of a text make, and the text after them. -/
def digits? (n : Nat) (t : Text) : Option (Nat × Text) :=
  let found := t.take n
  if found.length = n && found.all isDigit then some (Text.decimalValue found, t.drop n) else none

theorem digits?_append {t : Text} (h : t.all isDigit) (rest : Text) :
    digits? t.length (t ++ rest) = some (Text.decimalValue t, rest) := by
  simp [digits?, h]

/-- The weekday of the first day of a year; Monday is zero. -/
def firstWeekday (year : Nat) : Nat :=
  let past := year - 1
  (past * 365 + past / 4 - past / 100 + past / 400) % 7

/-- The number of weeks of a year: 53 if the year starts or ends with a Thursday. -/
def weeksOf (year : Nat) : Nat :=
  if firstWeekday year = 3 || (firstWeekday year = 2 && isLeap year) then 53 else 52

/-- The start of a day by its week and its weekday, from 1 on.  The fourth of January is in the
first week.  Days before year one are in no month of it. -/
def ofWeek? (year week weekday : Nat) : Option Moment :=
  if week = 0 || weeksOf year < week || weekday = 0 || 7 < weekday then none
  else if year = 0 then some ⟨1, 0, 0, 0, 0, 0⟩
  else
    let before : Moment := ⟨year - 1, 12, 29, 0, 0, 0⟩
    some (before.addDays (6 - (firstWeekday year + 3) % 7 + (week - 1) * 7 + (weekday - 1)))

/-- The start of the day that a date names. -/
def ofDate? (t : Text) : Option Moment := do
  let (year, t) ← digits? 4 t
  let hyphens := t.head? = some (CodePoint.ofChar '-')
  let hyphen (t : Text) : Option Text :=
    if !hyphens then some t else if t.head? = some (CodePoint.ofChar '-') then some t.tail else none
  let t ← hyphen t
  if t.head? = some (CodePoint.ofChar 'W') then
    let (week, t) ← digits? 2 t.tail
    if t.isEmpty then ofWeek? year week 1
    else
      let (weekday, _) ← digits? 1 (← hyphen t)
      ofWeek? year week weekday
  else
    let (month, t) ← digits? 2 t
    let (day, _) ← digits? 2 (← hyphen t)
    some ⟨year, month, day, 0, 0, 0⟩

/-- How many code points of a text are its date.  After a week without hyphens a digit is the
weekday if an even number of digits follows it, since those of a time come in pairs; after one
with hyphens, a hyphen and a digit are a weekday unless another digit follows. -/
def dateLength (t : Text) : Nat :=
  let isAt (n : Nat) (f : CodePoint → Bool) : Bool := t[n]?.any f
  if t.length = 7 then 7
  else if isAt 4 (is '-') then
    if isAt 5 (is 'W') && !(isAt 8 (is '-') && !isAt 10 isDigit) then 8 else 10
  else if isAt 4 (is 'W') then
    let digits := ((t.drop 7).takeWhile isDigit).length
    if digits = 0 || (1 < digits && digits % 2 = 1) then 7 else 8
  else 8

/-! ## Times -/

/-- A time of day, or an offset; whether code points that are not part of it follow. -/
structure Clock where
  hour : Nat := 0
  minute : Nat := 0
  second : Nat := 0
  microsecond : Nat := 0
  hasRest : Bool

namespace Clock

/-- The time in microseconds. -/
def microseconds (c : Clock) : Int :=
  (((c.hour * 60 + c.minute) * 60 + c.second) * 1000000 + c.microsecond : Nat)

/-- Whether a text goes on; a zero code point ends it. -/
def goesOn (t : Text) : Bool := t.head?.any fun c => c.val ≠ 0

/-- The microseconds of a fraction, and whether its text goes on after the digits. -/
def fraction? (t : Text) : Option (Nat × Bool) :=
  let shown := t.take 6
  if shown.all isDigit then
    some (Text.decimalValue (Text.padEnd 6 '0' shown), goesOn ((t.drop 6).dropWhile isDigit))
  else none

/-- What follows a pair of digits. -/
inductive Following where
  /-- Nothing, or one code point that is not looked at. -/
  | done (hasRest : Bool)
  /-- Another pair of digits, or a fraction after the third pair. -/
  | pair (t : Text)
  /-- A fraction. -/
  | fraction (t : Text)

/-- What follows a pair of digits, in a time with or without colons. -/
def following? (colons : Bool) : Text → Option Following
  | [] => some (.done false)
  | [c] => if c.isAscii then some (.done (c.val ≠ 0)) else none
  | c :: rest =>
    if colons && c = ':' then some (.pair rest)
    else if isIn ".," c then some (.fraction rest)
    else if colons then none
    else some (.pair (c :: rest))

/-- Hours, minutes, seconds and a fraction, as far as they are written. -/
def ofText? (t : Text) : Option Clock := do
  let (hour, t) ← digits? 2 t
  let colons := t.head? = some (CodePoint.ofChar ':')
  match ← following? colons t with
  | .done hasRest => some { hour, hasRest }
  | .fraction t =>
    let (microsecond, hasRest) ← fraction? t
    some { hour, microsecond, hasRest }
  | .pair t =>
    let (minute, t) ← digits? 2 t
    match ← following? colons t with
    | .done hasRest => some { hour, minute, hasRest }
    | .fraction t =>
      let (microsecond, hasRest) ← fraction? t
      some { hour, minute, microsecond, hasRest }
    | .pair t =>
      let (second, t) ← digits? 2 t
      match ← following? colons t with
      | .done hasRest => some { hour, minute, second, hasRest }
      | .fraction t | .pair t =>
        let (microsecond, hasRest) ← fraction? t
        some { hour, minute, second, microsecond, hasRest }

end Clock

/-- A time of day and its offset from universal time in microseconds. -/
def timeAndOffset? (t : Text) : Option (Clock × Int) := do
  let time ← Clock.ofText? (t.takeWhile fun c => !isIn "+-Z" c)
  match t.dropWhile fun c => !isIn "+-Z" c with
  | [] => if time.hasRest then none else some (time, 0)
  | c :: zone =>
    if c = 'Z' then if Clock.goesOn zone then none else some (time, 0)
    else
      let offset ← Clock.ofText? zone
      if offset.hasRest then none
      else some (time, if c = '-' then -offset.microseconds else offset.microseconds)

/-! ## Moments -/

/-- A moment whose fields are in range. -/
def checked (m : Moment) : Except MomentError Moment :=
  if m.year < 1 || 9999 < m.year then .error (.year m.year)
  else if m.month < 1 || 12 < m.month then .error .month
  else if m.day < 1 || daysOf m.year m.month < m.day then .error .day
  else if 23 < m.hour then .error .hour
  else if 59 < m.minute then .error .minute
  else if 59 < m.second then .error .second
  else .ok m

/-- The text with a `T` for a surrogate at the first of the places where a date may end. -/
def withSeparator (t : Text) : Text :=
  match [7, 8, 10].find? fun n => t[n]?.any CodePoint.isSurrogate with
  | some n => t.set n 'T'
  | none => t

/-- The moment that a text is written for.  A surrogate may stand only where a date may end. -/
def ofIso (written : Text) : Except MomentError Moment :=
  let t := withSeparator written
  match ofDate? (t.take (dateLength t)) with
  | none => .error (.malformed written)
  | some m =>
    if t.any CodePoint.isSurrogate then .error (.malformed written)
    else if t.length ≤ dateLength t then checked m
    else
      match timeAndOffset? (t.drop (dateLength t + 1)) with
      | none => .error (.malformed written)
      | some (clock, offset) =>
        if 86400000000 ≤ offset.natAbs then .error (.offset offset)
        else checked { m with hour := clock.hour, minute := clock.minute, second := clock.second }

end Moment

end Decouple
