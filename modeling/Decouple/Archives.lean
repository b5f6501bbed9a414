import Decouple.Disk
import Decouple.Text.Parts

/-!
# Stored archives

Archives are kept in one folder, each in a file named by its reference: thirty-two small
hexadecimal digits.  A reference is given out once and names the same bytes ever after.
-/

namespace Decouple

namespace Archives

/-- A digit of a reference. -/
def isDigit (c : CodePoint) : Bool := c.isDigit || 97 ≤ c.val && c.val ≤ 102

/-- Whether a text is a reference; a line feed may follow it. -/
def isReference (t : Text) : Bool :=
  let digits := (Text.dropEnd? "\n" t).getD t
  digits.length = 32 && digits.all isDigit

/-- The reference with a number. -/
def reference (n : Nat) : Text := Text.hex 32 n

/-- The path of an archive in a folder. -/
def path (folder ref : Text) : Text := FilePath.inside folder (ref ++ ".zip")

/-- Store an archive under a reference. -/
def put (d : Disk) (folder ref : Text) (archive : Bytes) : Except DiskError Disk := do
  let d ← d.makeFolders folder
  d.write (path folder ref) archive

/-- The archive with a reference. -/
def get? (d : Disk) (folder ref : Text) : Option Bytes :=
  if isReference ref then (d.read (path folder ref)).toOption else none

end Archives

end Decouple
