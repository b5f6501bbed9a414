import Decouple.Pattern.Scan
import Decouple.Text.Parts

/-!
# Import statements

Statements by which a source file takes in a module: static imports and re-exports, `require`
calls, dynamic imports, and imports with the names they bind.
-/

namespace Decouple

open CodePoint (is isIn isNotIn isBlank isWord)
open Pattern

namespace Signature

/-- A quoted specifier: one kind of quote around text without quotes and line feeds. -/
def quotedSpec : Pattern :=
  sequence [part .quote (one (isIn "'\"")), part .spec (many (isNotIn "'\"\n") 1 .greedy),
    same .quote]

/-- What ends a statement: an optional semicolon and the line break after it. -/
def statementEnd : Pattern :=
  sequence [indent, optional (one (is ';')), indent, optional lineBreak]

/-- What may stand between `import` and `from`. -/
def isClause (c : CodePoint) : Bool := isWord c || isBlank c || isIn "*$\x7b\x7d," c

/-- White space behind a word; what comes next may start with some of it. -/
def wordGap : Pattern := some' isBlank

/-- An import or a re-export, alone at the start of its line. -/
def importStatement : Pattern :=
  sequence [
    lineStart, indent, choice [literal "import", literal "export"], wordGap,
    optional (sequence [literal "type", wordGap]),
    optional (sequence [many isClause 1 .lazy, gap, literal "from", gap]),
    quotedSpec, statementEnd]

/-- What may stand between `const`, `let` or `var` and the equals sign. -/
def isBinding (c : CodePoint) : Bool := isWord c || isBlank c || isIn "\x7b\x7d,:" c

/-- A `require` call at the start of its line, with or without a variable that takes it. -/
def requireStatement : Pattern :=
  sequence [
    lineStart, indent,
    optional (sequence [
      choice [literal "const", literal "let", literal "var"], wordGap, many isBinding 1 .lazy,
      blanks, one (is '='), blanks]),
    literal "require(", blanks, quotedSpec, blanks, one (is ')'), statementEnd]

/-- An import as an expression. -/
def dynamicImport : Pattern :=
  sequence [wordEdge, literal "import(", blanks, quotedSpec, blanks, one (is ')')]

/-! ## Bound names -/

/-- Code points of an identifier. -/
def isIdentifier (c : CodePoint) : Bool := isWord c || c = '$'

/-- Names in braces. -/
def bracedNames : Pattern :=
  sequence [one (is '\x7b'), any (isNotIn "\x7d"), one (is '\x7d')]

/-- A name, names in braces, or a name and names in braces. -/
def bindingClause : Pattern :=
  choice [
    many isIdentifier 1 .greedy, bracedNames,
    sequence [many isIdentifier 1 .greedy, blanks, one (is ','), blanks, bracedNames]]

/-- An import that binds names. -/
def bindingImport : Pattern :=
  sequence [
    lineStart, indent, literal "import", gap, part .bindings bindingClause, gap, literal "from",
    gap, quotedSpec]

/-- The local name that one part of an import clause introduces. -/
def localName? (part : Text) : Option Text :=
  let part := Text.trim part
  let name := Text.trim ((Text.splitOnText " as " part).getLastD [])
  if !name.isEmpty && name.all isIdentifier && name ≠ ("type" : Text) then some name else none

/-- The local names that an import clause introduces. -/
def localNames (clause : Text) : List Text :=
  (Text.splitWhere (isIn "\x7b\x7d,") clause).filterMap localName?

/-- The imports of a text that bind names, as specifiers with the names. -/
def boundImports (t : Text) : List (Text × List Text) :=
  (bindingImport.findAll t).map fun m => (m.textOf .spec, localNames (m.textOf .bindings))

/-- A call of a function by its plain name. -/
def call (name : Text) : Pattern :=
  sequence [notAfter (fun c => isIdentifier c || c = '.'), literal name, blanks, one (is '(')]

end Signature

end Decouple
