import Decouple.Failure
import Decouple.Text.Blank
import Decouple.Text.Parts
import Decouple.Text.Word

/-!
# Repositories

A repository on the hosting service is named by its address or by the short form `owner/name`.  An
address may carry a reference (a branch, tag or commit) behind `/tree/`, and anything behind `#` or
`?`.  Without a reference the branch `main` is meant.
-/

namespace Decouple

open CodePoint (isIn isWord isBlank)

/-- A repository at a reference. -/
structure Repository where
  owner : Text
  name : Text
  reference : Text := "main"
  deriving DecidableEq

namespace Repository

/-- How messages name a repository. -/
def label (r : Repository) : Text := r.owner ++ "/" ++ r.name ++ "@" ++ r.reference

/-- What a source says about a repository. -/
structure Mention where
  owner : Text
  name : Text
  reference : Option Text
  deriving DecidableEq

/-- A text without a start, if it has that start. -/
def withoutStart (start t : Text) : Text := (Text.dropStart? start t).getD t

/-- An address without its scheme and its `www`. -/
def withoutScheme (t : Text) : Text :=
  withoutStart "www."
    (((Text.dropStart? "https://" t).orElse fun _ => Text.dropStart? "http://" t).getD t)

/-- Code points of an owner in an address. -/
def isOwner (c : CodePoint) : Bool := c ≠ '/' && !isBlank c

/-- Code points of a reference in an address. -/
def isReference (c : CodePoint) : Bool := !isIn "#?" c && !isBlank c

/-- Code points of a repository's name in an address. -/
def isName (c : CodePoint) : Bool := c ≠ '/' && isReference c

/-- Code points of the parts of a short form. -/
def isShort (c : CodePoint) : Bool := isWord c || isIn ".-" c

/-- Whether an address may end with this: nothing, or `#` or `?` and the rest of the line. -/
def isEnding : Text → Bool
  | [] => true
  | c :: rest => isIn "#?" c && rest.all (· ≠ '\n')

/-- What stands between the name and the ending of an address: nothing, a slash or a reference. -/
def referenceAt? (t : Text) : Option (Option Text) :=
  match Text.dropStart? "/tree/" t with
  | some rest =>
    if !(rest.takeWhile isReference).isEmpty && isEnding (rest.dropWhile isReference) then
      some (some (rest.takeWhile isReference))
    else none
  | none => if isEnding (withoutStart "/" t) then some none else none

/-- Read an address. -/
def ofAddress? (t : Text) : Option Mention := do
  let path ← Text.dropStart? "github.com/" (withoutScheme t)
  let owner := path.takeWhile isOwner
  let rest ← Text.dropStart? "/" (path.dropWhile isOwner)
  let name := rest.takeWhile isName
  let reference ← referenceAt? (rest.dropWhile isName)
  if owner.isEmpty || name.isEmpty then none else some { owner, name, reference }

/-- Read a short form. -/
def ofShort? (t : Text) : Option Mention := do
  let owner := t.takeWhile isShort
  let name ← Text.dropStart? "/" (t.dropWhile isShort)
  if owner.isEmpty || name.isEmpty || !name.all isShort then none
  else some { owner, name, reference := none }

/-- What a source says, with blanks around it left out. -/
def mention? (source : Text) : Option Mention :=
  (ofAddress? (Text.trim source)).orElse fun _ => ofShort? (Text.trim source)

/-- Whether a source names a repository. -/
def isNamedBy (source : Text) : Bool := (mention? source).isSome

/-- A name without the ending that clone addresses have. -/
def cloneName (name : Text) : Text := (Text.dropEnd? ".git" name).getD name

/-- The repository that a mention means; a reference that is given apart wins. -/
def ofMention (m : Mention) (reference : Option Text) : Repository where
  owner := m.owner
  name := cloneName m.name
  reference :=
    (reference.filter (!·.isEmpty)).getD
      ((m.reference.map (Text.trimEndOf (· = '/'))).getD "main")

/-- The repository that a source names. -/
def ofSource (source : Text) (reference : Option Text) : Except Failure Repository :=
  match mention? source with
  | some m => .ok (ofMention m reference)
  | none => .error { kind := .retrieval, message := "Not a GitHub repository: " ++ source }

end Repository

end Decouple
