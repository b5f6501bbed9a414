import Decouple.Number.Binary64
import Decouple.Number.Reading
import Decouple.Text.Numeral

/-!
# Progress

Progress is reported as a percentage with a message.  The percentage shown never falls and never
leaves 0 to 100.

A part of the work that counts its steps reports through a hook, which maps the steps that are done
onto a way between two percentages.  The share of the way is found with floating-point numbers, so a
hook fails on numbers that are too large for them; then nothing is shown.
-/

namespace Decouple

/-- A report of progress. -/
structure Milestone where
  percent : Int
  message : Text
  deriving DecidableEq

namespace Progress

/-- The percentage to show for a new one, given the one shown last. -/
def advance (shown percent : Int) : Int := max shown (min 100 percent)

/-- Why a hook cannot report. -/
inductive HookFault where
  /-- The steps that are done are too many times all steps. -/
  | longPart
  /-- The way is too long. -/
  | longWay
  /-- The share of the way is too long. -/
  | longShare
  /-- A number of steps has too many digits. -/
  | longCount
  deriving DecidableEq

/-- A fault in words. -/
def HookFault.message : HookFault → Text
  | .longPart => "integer division result too large for a float"
  | .longWay => "int too large to convert to float"
  | .longShare => "cannot convert float infinity to integer"
  | .longCount => Reading.unwritable

/-- The part of the steps that is done; of no steps all are. -/
def part (done total : Int) : Binary64 :=
  if total = 0 then Binary64.ofInt 1 else Binary64.quotient done total

/-- The percentage of `done` steps out of `total` on the way from `start` to `stop`, if no number
that leads to it is too large. -/
def reach (start stop done total : Int) : Except HookFault Int :=
  let part := part done total
  let way := Binary64.ofInt (stop - start)
  if !part.isFinite then .error .longPart
  else if !way.isFinite then .error .longWay
  else
    match (Binary64.mul way part).round? with
    | some n => .ok (start + n)
    | none => .error .longShare

/-- The percentage of `done` steps out of `total`; it stays at the start if it cannot be found. -/
def share (start stop done total : Int) : Int :=
  (reach start stop done total).toOption.getD start

/-- The message of `done` steps out of `total`. -/
def counted (label : Text) (done total : Int) : Text :=
  label ++ " " ++ Text.ofInt done ++ "/" ++ Text.ofInt total

/-- The milestone of `done` steps out of `total` on the way from `start` to `stop`. -/
def step (start stop : Int) (label : Text) (done total : Int) : Milestone :=
  ⟨share start stop done total, counted label done total⟩

/-- What a hook reports of any numbers of steps, or why it cannot. -/
def hook (start stop : Int) (label : Text) (done total : Int) : Except HookFault Milestone := do
  let percent ← reach start stop done total
  if Reading.isWritable done && Reading.isWritable total then
    .ok ⟨percent, counted label done total⟩
  else .error .longCount

/-- A use of the tracker: a percentage with its message, or the steps of a hook. -/
inductive Call where
  | direct (percent : Int) (message : Text)
  | hook (start stop : Int) (label : Text) (done total : Int)

/-- The milestone of a use of the tracker. -/
def Call.milestone : Call → Except HookFault Milestone
  | direct percent message => .ok ⟨percent, message⟩
  | hook start stop label done total => Progress.hook start stop label done total

/-- The milestones as they are shown, the last percentage shown before them being `shown`. -/
def emit (shown : Int) : List Milestone → List Milestone
  | [] => []
  | m :: rest =>
    let percent := advance shown m.percent
    ⟨percent, m.message⟩ :: emit percent rest

/-- What each use of the tracker shows, or why it shows nothing, the last percentage shown before
them being `shown`. -/
def answers (shown : Int) : List Call → List (Except HookFault Milestone)
  | [] => []
  | call :: rest =>
    match call.milestone with
    | .error e => .error e :: answers shown rest
    | .ok m =>
      let percent := advance shown m.percent
      .ok ⟨percent, m.message⟩ :: answers percent rest

/-- The milestones that a new tracker shows. -/
def shownBy (calls : List Call) : List Milestone :=
  (answers 0 calls).filterMap Except.toOption

end Progress

end Decouple
