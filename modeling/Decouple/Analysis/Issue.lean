import Decouple.Text.Numeral

/-!
# Issues

One issue is one place where a project depends on a platform.  Its identity is its rule, its file
and its line; further issues of the same rule, file and line are numbered.
-/

namespace Decouple

/-- How much an issue matters. -/
inductive Severity where
  | info
  | warning
  | critical
  deriving DecidableEq

namespace Severity

/-- The name of a severity. -/
def name : Severity → Text
  | info => "info"
  | warning => "warning"
  | critical => "critical"

/-- The place of a severity in their order. -/
def rank : Severity → Nat
  | info => 0
  | warning => 1
  | critical => 2

end Severity

/-- The rules that find issues. -/
inductive Rule where
  | dependency
  | importStatement
  | address
  | plugin
  | tag
  | dataAttribute
  | comment
  deriving DecidableEq

namespace Rule

/-- The name of a rule. -/
def name : Rule → Text
  | dependency => "proprietary-dependency"
  | importStatement => "proprietary-import"
  | address => "proprietary-cdn"
  | plugin => "non-standard-plugin"
  | tag => "platform-tag"
  | dataAttribute => "platform-data-attribute"
  | comment => "platform-comment"

/-- How much the issues of a rule matter. -/
def severity : Rule → Severity
  | dependency => .critical
  | importStatement => .critical
  | address => .warning
  | plugin => .warning
  | tag => .info
  | dataAttribute => .info
  | comment => .info

end Rule

/-- What a rule has found, not yet numbered. -/
structure Signal where
  rule : Rule
  path : Text
  description : Text
  platform : Text
  line : Option Nat
  suggestion : Text
  deriving DecidableEq

/-- The identity of the first issue of a rule, file and line. -/
def Signal.base (s : Signal) : Text :=
  s.rule.name ++ "@" ++ s.path ++ ":" ++ Text.ofNat (s.line.getD 0)

/-- A numbered issue.  Issues from elsewhere may have no platform and no suggestion. -/
structure Issue where
  id : Text
  severity : Severity
  path : Text
  description : Text
  rule : Text
  platform : Option Text
  line : Option Nat
  suggestion : Option Text

namespace Issue

/-- The `n`-th identity of a base, counted from one: the base, and with a number from the second
on. -/
def nthId (base : Text) (n : Nat) : Text :=
  if n ≤ 1 then base else base ++ "#" ++ Text.ofNat n

/-- The first identity of a base from the `n`-th on that is not in use; `fuel` bounds how many are
looked at. -/
def freeIdFrom (used : List Text) (base : Text) : Nat → Nat → Text
  | 0, n => nthId base n
  | fuel + 1, n =>
    if nthId base n ∈ used then freeIdFrom used base fuel (n + 1) else nthId base n

/-- The first identity of a base that is not in use.  No more than those in use are looked at in
vain. -/
def freeId (used : List Text) (base : Text) : Text := freeIdFrom used base used.length 1

/-- The issue of a signal with an identity. -/
def ofSignal (id : Text) (s : Signal) : Issue where
  id := id
  severity := s.rule.severity
  path := s.path
  description := s.description
  rule := s.rule.name
  platform := some s.platform
  line := s.line
  suggestion := some s.suggestion

/-- The issues of some signals when some identities are in use. -/
def numberFrom (used : List Text) : List Signal → List Issue
  | [] => []
  | s :: rest =>
    let id := freeId used s.base
    ofSignal id s :: numberFrom (id :: used) rest

/-- The issues of some signals. -/
def number (signals : List Signal) : List Issue := numberFrom [] signals

end Issue

end Decouple
