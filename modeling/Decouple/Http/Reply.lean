import Decouple.Http.Address
import Decouple.Json.Bytes

/-!
# Replies

A request comes back with a status and a body, or it fails on the way.
-/

namespace Decouple

/-- What comes back for a request. -/
inductive Reply where
  | timedOut (message : Text)
  | failed (message : Text)
  | answered (status : Nat) (body : Bytes)
  deriving DecidableEq

namespace Reply

/-- The reply that says that there is nothing. -/
def nothing : Reply := .answered 404 []

/-- Whether a status says that all went well. -/
def isSuccess (status : Nat) : Bool := 200 ≤ status && status < 300

/-- The JSON value of a successful reply, if it has one. -/
def json? : Reply → Except RequestFault (Option Json)
  | answered status body =>
    if isSuccess status then
      match Json.readBytes body with
      | .ok j => .ok (some j)
      | .error (.json (.tooDeep holder)) => .error (.tooDeep holder)
      | .error _ => .ok none
    else .ok none
  | _ => .ok none

/-- The reply as it is taken from an address: what comes from nowhere is refused. -/
def takenFrom (a : Address) : Reply → Except RequestFault Reply
  | answered status body =>
    if a.isAbsolute then .ok (answered status body) else .error (.nowhere a.toText)
  | reply => .ok reply

end Reply

end Decouple
