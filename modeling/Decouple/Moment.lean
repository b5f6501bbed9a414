import Decouple.Text.Numeral

/-!
# Moments

A moment is a date and a time of day in coordinated universal time.  A run reads the clock twice;
readings are one minute apart.
-/

namespace Decouple

/-- A date and a time of day. -/
structure Moment where
  year : Nat
  month : Nat
  day : Nat
  hour : Nat
  minute : Nat
  second : Nat
  deriving DecidableEq

namespace Moment

/-- A number with at least two digits. -/
def two (n : Nat) : Text := Text.padStart 2 '0' (Text.ofNat n)

/-- The date. -/
def date (m : Moment) : Text :=
  Text.padStart 4 '0' (Text.ofNat m.year) ++ "-" ++ two m.month ++ "-" ++ two m.day

/-- The moment to the second, with its offset from universal time. -/
def iso (m : Moment) : Text :=
  m.date ++ "T" ++ two m.hour ++ ":" ++ two m.minute ++ ":" ++ two m.second ++ "+00:00"

/-- The moment to the minute. -/
def short (m : Moment) : Text :=
  Text.ofNat m.year ++ "-" ++ two m.month ++ "-" ++ two m.day ++ " " ++ two m.hour ++ ":" ++
    two m.minute ++ " UTC"

/-- Whether a year has a leap day. -/
def isLeap (year : Nat) : Bool := year % 4 = 0 && (year % 100 ≠ 0 || year % 400 = 0)

/-- The number of days of a month. -/
def daysOf (year month : Nat) : Nat :=
  if month = 2 then (if isLeap year then 29 else 28)
  else if month = 4 || month = 6 || month = 9 || month = 11 then 30
  else 31

/-- The same time on the next day. -/
def nextDay (m : Moment) : Moment :=
  if m.day < daysOf m.year m.month then { m with day := m.day + 1 }
  else if m.month < 12 then { m with month := m.month + 1, day := 1 }
  else { m with year := m.year + 1, month := 1, day := 1 }

/-- So many days later. -/
def addDays : Nat → Moment → Moment
  | 0, m => m
  | n + 1, m => addDays n m.nextDay

/-- So many minutes later. -/
def addMinutes (n : Nat) (m : Moment) : Moment :=
  let minutes := m.hour * 60 + m.minute + n
  addDays (minutes / 1440)
    { m with hour := minutes % 1440 / 60, minute := minutes % 60 }

/-- The start of 1970. -/
def epoch : Moment := ⟨1970, 1, 1, 0, 0, 0⟩

/-- The moment so many seconds after the start of 1970. -/
def ofSeconds (n : Nat) : Moment := { epoch.addMinutes (n / 60) with second := n % 60 }

/-- The first reading of the clock. -/
def first : Moment := ⟨2024, 1, 2, 3, 4, 5⟩

/-- The reading of the clock that `earlier` readings precede. -/
def reading (earlier : Nat) : Moment := first.addMinutes earlier

end Moment

end Decouple
