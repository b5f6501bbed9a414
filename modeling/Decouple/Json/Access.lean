import Decouple.Json.Value
import Decouple.Text.Quoted

/-!
# Parts of JSON values

Asking a value for a part fails when the value has no parts of that kind, or when the part is not
there; the message tells which.
-/

namespace Decouple

/-- Why a value has no such part. -/
inductive AccessError where
  | missing (name : Text)
  | missingNumber (n : Nat)
  /-- The value has no parts. -/
  | noParts (kind : Text)
  /-- The parts of the value have numbers, not names. -/
  | unnamed (isText : Bool)
  /-- The value has no part with that number. -/
  | outOfRange (kind : Text)
  deriving DecidableEq

namespace AccessError

/-- An error in words. -/
def message : AccessError → Text
  | missing name => name.quoted
  | missingNumber n => Text.ofNat n
  | noParts kind => "'" ++ kind ++ "' object is not subscriptable"
  | unnamed false => "list indices must be integers or slices, not str"
  | unnamed true => "string indices must be integers, not 'str'"
  | outOfRange kind => kind ++ " index out of range"

end AccessError

namespace Json

/-- The part with a name. -/
def named (name : Text) : Json → Except AccessError Json
  | object members =>
    match members.lookup name with
    | some value => .ok value
    | none => .error (.missing name)
  | array _ => .error (.unnamed false)
  | string _ => .error (.unnamed true)
  | j => .error (.noParts j.kindName)

/-- The first part. -/
def first : Json → Except AccessError Json
  | object _ => .error (.missingNumber 0)
  | array [] => .error (.outOfRange "list")
  | array (item :: _) => .ok item
  | string [] => .error (.outOfRange "string")
  | string (c :: _) => .ok (.string [c])
  | j => .error (.noParts j.kindName)

end Json

end Decouple
