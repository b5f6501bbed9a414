import Decouple.Pattern.Scan
import Decouple.Text.Parts

/-!
# Environment variables

The environment variables that a source file reads: by a member of the environment object, by an
index into it, through a function, or by taking the environment object apart.
-/

namespace Decouple

open CodePoint (is isIn isNotIn isWord)
open Pattern

namespace Signature

/-- What a variable's name starts with. -/
def isVariableStart (c : CodePoint) : Bool := c.isUpper || c = '_'

/-- What a variable's name goes on with. -/
def isVariableRest (c : CodePoint) : Bool := c.isUpper || c.isDigit || c = '_'

/-- The name of a variable. -/
def variableName : Pattern := sequence [one isVariableStart, any isVariableRest]

/-- A member of an environment object. -/
def memberOf (object : Text) : Pattern :=
  sequence [wordEdge, literal (object ++ "."), part .variable variableName]

/-- A quoted variable name after an opening bracket. -/
def quotedAfter (opening : Text) : Pattern :=
  sequence [
    wordEdge, literal opening, blanks, one (isIn "'\""), part .variable variableName,
    one (isIn "'\"")]

/-- A quoted variable name inside brackets. -/
def quotedInside (opening : Text) (closing : Char) : Pattern :=
  sequence [quotedAfter opening, blanks, one (is closing)]

/-- The ways to read one variable. -/
def variableReferences : List Pattern := [
  memberOf "import.meta.env", quotedInside "import.meta.env[" ']',
  memberOf "process.env", quotedInside "process.env[" ']',
  quotedInside "Deno.env.get(" ')', quotedInside "os.environ[" ']',
  quotedAfter "os.environ.get(", quotedAfter "os.getenv("]

/-- An environment object that is taken apart into variables. -/
def destructuring : Pattern :=
  sequence [
    wordEdge, choice [literal "const", literal "let", literal "var"], blanks, one (is '\x7b'),
    part .names (any (isNotIn "\x7b\x7d")), one (is '\x7d'), blanks, one (is '='), blanks,
    choice [
      sequence [
        choice [literal "import.meta.env", literal "process.env"],
        notFollowedBy (one fun c => isWord c || isIn ".[" c)],
      sequence [literal "Deno.env.toObject(", blanks, one (is ')')]]]

/-- The variable that one part of a taken-apart object reads. -/
def takenName? (part : Text) : Option Text :=
  let name := part.takeWhile (isNotIn ":=")
  let name := Text.trimOf (isIn "'\"") (Text.trim name)
  if variableName.matchesWhole name then some name else none

/-- The variables that a text reads, possibly with repetitions. -/
def variableReads (t : Text) : List Text :=
  variableReferences.flatMap (fun p => (p.findAll t).map (·.textOf .variable)) ++
    (destructuring.findAll t).flatMap fun m =>
      (Text.splitOn ',' (m.textOf .names)).filterMap takenName?

/-- The variables that a text reads, in order, each once. -/
def variablesIn (t : Text) : List Text := Text.sort (Text.distinct (variableReads t))

/-- A declaration of a variable in an environment file. -/
def declaration : Pattern :=
  sequence [
    lineStart, blanks, optional (sequence [literal "export", gap]), part .variable variableName,
    blanks, one (is '=')]

/-- The variables that an environment file declares. -/
def declaredVariables (t : Text) : List Text :=
  (declaration.findAll t).map (·.textOf .variable)

end Signature

end Decouple
