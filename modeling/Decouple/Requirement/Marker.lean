import Decouple.Pattern.Scan
import Decouple.Text.Case
import Decouple.Text.Escape
import Decouple.Text.Parts

/-!
# Environment markers

A marker compares variables of the environment with quoted values, with `and`, `or` and
parentheses between the comparisons.  It is read into a tree and shown in one spelling: single
spaces, double quotes where the value allows them, parentheses around inner groups of several
comparisons.
-/

namespace Decouple

/-!
## Names of packages

Two names stand for one package when they agree up to letter case and up to which of hyphen,
underscore and point separate their words, and how many of them.
-/

namespace PackageName

/-- Separators of the words of a name. -/
def isSeparator (c : CodePoint) : Bool := c = '-' || c = '_' || c = '.'

/-- The name with one hyphen for each run of separators. -/
def foldSeparators : Text → Text
  | [] => []
  | c :: rest =>
    if isSeparator c then
      if rest.head?.any isSeparator then foldSeparators rest
      else CodePoint.ofChar '-' :: foldSeparators rest
    else c :: foldSeparators rest

/-- The normal form of a name: lower case, single hyphens. -/
def normal (name : Text) : Text := Text.lowerCase (foldSeparators name)

end PackageName

/-! ## Markers -/

open CodePoint (is isIn isNotIn isIndent)
open Pattern

/-- One side of a comparison. -/
inductive MarkerTerm where
  | variable (name : Text)
  | value (text : Text)
  deriving DecidableEq

namespace MarkerTerm

/-- The term with a normal package name for its value, if it is a value. -/
def withNormalName : MarkerTerm → MarkerTerm
  | .variable name => .variable name
  | .value text => .value (PackageName.normal text)

/-- Whether the term is one of some variables. -/
def isVariable (names : List Text) : MarkerTerm → Bool
  | .variable name => names.contains name
  | .value _ => false

end MarkerTerm

/-- A marker: a comparison, or members of a group with the words between them. -/
inductive Marker where
  | compare (left : MarkerTerm) (operator : Text) (right : MarkerTerm)
  | group (first : Marker) (rest : List (Text × Marker))

namespace Marker

/-- A value that holds both kinds of quotes, so that neither can stand around it. -/
structure Unwritable where
  value : Text
  deriving DecidableEq

/-- What is said about a value that cannot be written. -/
def Unwritable.message (_ : Unwritable) : Text :=
  "Cannot serialize marker value containing both quote characters"

/-! ## Tokens -/

/-- What a pattern matches at a place, and the place after it. -/
def token? (pattern : Pattern) (place : Place) : Option (Text × Place) :=
  (pattern.matchAt? place).map fun m => (m.text, m.stop)

/-- The place after spaces and tabs. -/
def afterIndent (place : Place) : Place :=
  match token? indent place with
  | some (_, place) => place
  | none => place

/-- A word with nothing of a word beside it. -/
def word (pattern : Pattern) : Pattern := sequence [wordEdge, pattern, wordEdge]

/-- Variables of the environment; some have a point in an older spelling. -/
def variableToken : Pattern :=
  let dotted (a b : String) : Pattern :=
    sequence [literal a, one (isIn "._"), literal b]
  word (choice [
    literal "python_version", literal "python_full_version", dotted "os" "name",
    dotted "sys" "platform", literal "platform_release", literal "platform_system",
    dotted "platform" "version", dotted "platform" "machine",
    dotted "platform" "python_implementation", literal "python_implementation",
    literal "implementation_name", literal "implementation_version", literal "extras",
    literal "extra", literal "dependency_groups"])

/-- A value in quotes. -/
def quotedToken : Pattern :=
  choice [
    sequence [one (is '\''), any (isNotIn "'"), one (is '\'')],
    sequence [one (is '"'), any (isNotIn "\""), one (is '"')]]

/-- A comparison operator that is no word. -/
def operatorToken : Pattern :=
  choice (["===", "==", "~=", "!=", "<=", ">=", "<", ">"].map fun op : String => literal op)

/-- The word between two comparisons. -/
def joinToken : Pattern := word (choice [literal "or", literal "and"])

/-! ## Reading -/

/-- A variable in its present spelling. -/
def variableNamed (name : Text) : MarkerTerm :=
  let name := Text.replaceCodePoint '.' '_' name
  .variable (if name = ("python_implementation" : Text) then "platform_python_implementation"
    else name)

/-- One side of a comparison. -/
def readTerm (place : Place) : Option (MarkerTerm × Place) :=
  match token? variableToken place with
  | some (name, place) => some (variableNamed name, place)
  | none =>
    (token? quotedToken place).bind fun (quoted, place) =>
      (Escape.read? (quoted.drop 1).dropLast).map fun value => (.value value, place)

/-- A comparison operator. -/
def readOperator (place : Place) : Option (Text × Place) :=
  match token? (word (literal "in")) place with
  | some (_, place) => some ("in", place)
  | none =>
    match token? (sequence [word (literal "not"), many isIndent 1 .greedy, word (literal "in")])
        place with
    | some (_, place) => some ("not in", place)
    | none => token? operatorToken place

/-- A comparison. -/
def readComparison (place : Place) : Option (Marker × Place) := do
  let (left, place) ← readTerm (afterIndent place)
  let (operator, place) ← readOperator (afterIndent place)
  let (right, place) ← readTerm (afterIndent place)
  some (compare left operator right, afterIndent place)

mutual

/-- A comparison or a group in parentheses; `fuel` bounds the steps. -/
def readMember : Nat → Place → Option (Marker × Place)
  | 0, _ => none
  | fuel + 1, place =>
    match token? (one (is '(')) (afterIndent place) with
    | none => readComparison place
    | some (_, place) => do
      let (inner, place) ← readGroup fuel (afterIndent place)
      let (_, place) ← token? (one (is ')')) (afterIndent place)
      some (inner, afterIndent place)

/-- Members with words between them. -/
def readGroup : Nat → Place → Option (Marker × Place)
  | 0, _ => none
  | fuel + 1, place => do
    let (first, place) ← readMember fuel place
    let (rest, place) ← readRest fuel place
    some (group first rest, place)

/-- The further members of a group. -/
def readRest : Nat → Place → Option (List (Text × Marker) × Place)
  | 0, _ => none
  | fuel + 1, place =>
    match token? joinToken place with
    | none => some ([], place)
    | some (joint, place) => do
      let (next, place) ← readMember fuel place
      let (rest, place) ← readRest fuel place
      some ((joint, next) :: rest, place)

end

/-- A marker and the place after it. -/
def read (place : Place) : Option (Marker × Place) :=
  (readGroup (2 * place.rest.length + 3) place).map fun (m, place) => (m, afterIndent place)

/-! ## The normal form and its text -/

/-- A comparison of a package name with `extra`, or with a set of names on its right, has the
normal form of the name. -/
def compareNormal (left : MarkerTerm) (operator : Text) (right : MarkerTerm) : Marker :=
  if left.isVariable ["extra"] then compare left operator right.withNormalName
  else if right.isVariable ["extra", "extras", "dependency_groups"] then
    compare left.withNormalName operator right
  else compare left operator right

mutual

/-- The marker with normal package names. -/
def normal : Marker → Marker
  | compare left operator right => compareNormal left operator right
  | group first rest => group (normal first) (normalRest rest)

/-- The further members of a group with normal package names. -/
def normalRest : List (Text × Marker) → List (Text × Marker)
  | [] => []
  | (joint, m) :: rest => (joint, normal m) :: normalRest rest

end

/-- A value in double quotes, or in single quotes if it holds a double one. -/
def quotedValue (value : Text) : Except Unwritable Text :=
  if !value.contains '"' then .ok ("\"" ++ value ++ "\"")
  else if value.contains '\'' then .error ⟨value⟩
  else .ok ("'" ++ value ++ "'")

/-- One side of a comparison as a text. -/
def termText : MarkerTerm → Except Unwritable Text
  | .variable name => .ok name
  | .value value => quotedValue value

mutual

/-- A marker as a text, inner groups of several members in parentheses. -/
def textAt (inner : Bool) : Marker → Except Unwritable Text
  | compare left operator right => do
    let left ← termText left
    let right ← termText right
    .ok (left ++ " " ++ operator ++ " " ++ right)
  | group first [] => textAt inner first
  | group first (m :: rest) => do
    let head ← textAt true first
    let tail ← restText (m :: rest)
    .ok (if inner then "(" ++ head ++ tail ++ ")" else head ++ tail)

/-- The further members of a group as a text. -/
def restText : List (Text × Marker) → Except Unwritable Text
  | [] => .ok []
  | (joint, m) :: rest => do
    let next ← textAt true m
    let tail ← restText rest
    .ok (" " ++ joint ++ " " ++ next ++ tail)

end

/-- A marker as a text. -/
def toText (m : Marker) : Except Unwritable Text := textAt false m

end Marker

end Decouple
