import Decouple.Number.Shortest
import Decouple.Text.Quoted

/-!
# JSON values

Integers are exact at any size, other numbers are binary floating-point, and an object is the list
of its members in order, each name once.  `Json.shown` is how a value appears inside a message or
a text field; `Json.kindName` is how a message names the kind of a value.
-/

namespace Decouple

inductive Json where
  | null
  | bool (b : Bool)
  | int (n : Int)
  | real (x : Binary64)
  | string (t : Text)
  | array (items : List Json)
  | object (members : List (Text × Json))

namespace Json

instance : Inhabited Json := ⟨null⟩

/-- Write a member: in place if the name is there, at the end if not. -/
def putMember (name : Text) (value : Json) : List (Text × Json) → List (Text × Json)
  | [] => [(name, value)]
  | (n, v) :: rest =>
    if n = name then (n, value) :: rest else (n, v) :: putMember name value rest

/-- The members of an object, none of anything else. -/
def members : Json → List (Text × Json)
  | object ms => ms
  | _ => []

/-- The member of an object with a name. -/
def get? (name : Text) (j : Json) : Option Json := j.members.lookup name

/-- A text, or nothing. -/
def ofText? : Option Text → Json
  | some t => string t
  | none => null

/-- Texts as an array. -/
def ofTexts (ts : List Text) : Json := array (ts.map string)

/-- The text of a string. -/
def text? : Json → Option Text
  | string t => some t
  | _ => none

/-- The members of an object. -/
def object? : Json → Option (List (Text × Json))
  | object ms => some ms
  | _ => none

/-- The items of an array. -/
def array? : Json → Option (List Json)
  | array items => some items
  | _ => none

/-- Nothing, false, zero and the empty text, array and object count as no. -/
def isTruthy : Json → Bool
  | null => false
  | bool b => b
  | int n => n != 0
  | real (.finite _ m _) => m != 0
  | real _ => true
  | string t => !t.isEmpty
  | array items => !items.isEmpty
  | object ms => !ms.isEmpty

/-- The values that hold others. -/
inductive Holder where
  | array
  | object
  deriving DecidableEq

/-- The name of a kind of value that holds others. -/
def Holder.name : Holder → Text
  | array => "array"
  | object => "object"

/-- What is said about a value that others hold too deep. -/
def Holder.tooDeep (h : Holder) : Text :=
  "maximum recursion depth exceeded while decoding a JSON " ++ h.name ++ " from a unicode string"

/-- The kind of a value, as messages name it. -/
def kindName : Json → Text
  | null => "NoneType"
  | bool _ => "bool"
  | int _ => "int"
  | real _ => "float"
  | string _ => "str"
  | array _ => "list"
  | object _ => "dict"

end Json

/-- Positional from 10^-4 up to 10^16, two digits of exponent, short names for the rest. -/
def DecimalLayout.shown : DecimalLayout := ⟨-3, 16, 2, "nan", "inf"⟩

/-- As `DecimalLayout.shown`, with the names that JSON texts use. -/
def DecimalLayout.json : DecimalLayout := ⟨-3, 16, 2, "NaN", "Infinity"⟩

namespace Json

mutual

/-- A value as messages show it. -/
def shown : Json → Text
  | null => "None"
  | bool b => if b then "True" else "False"
  | int n => Text.ofInt n
  | real x => DecimalLayout.shown.render x
  | string t => t.quoted
  | array items => "[" ++ shownItems items ++ "]"
  | object ms => "\x7b" ++ shownMembers ms ++ "\x7d"

/-- Items with commas between them. -/
def shownItems : List Json → Text
  | [] => []
  | [j] => shown j
  | j :: rest => shown j ++ ", " ++ shownItems rest

/-- Members with commas between them. -/
def shownMembers : List (Text × Json) → Text
  | [] => []
  | [(n, j)] => n.quoted ++ ": " ++ shown j
  | (n, j) :: rest => n.quoted ++ ": " ++ shown j ++ ", " ++ shownMembers rest

end

/-- A value as a text: a string itself, anything else as it is shown. -/
def asText : Json → Text
  | string t => t
  | j => j.shown

end Json

end Decouple
