import Decouple.Console.Table
import Decouple.Text.Utf8

/-!
# Printing

What a command prints is a list of blocks.  Printing stops at the first block that cannot be
shown: its tags do not fit together, or it holds a surrogate.
-/

namespace Decouple

/-- Why a block cannot be printed. -/
inductive PrintFault where
  | style (f : StyleFault)
  | unwritable (u : Utf8.Unwritable)
  deriving DecidableEq

/-- A fault in words. -/
def PrintFault.message : PrintFault → Text
  | style f => f.message
  | unwritable u =>
    u.message ++ "\n*** You may need to add PYTHONIOENCODING=utf-8 to your environment ***"

/-- Something to print. -/
inductive Block where
  /-- A styled text with a line feed after it. -/
  | line (t : Text)
  | table (t : Table)
  /-- A text with a line feed after it, brackets taken as they are. -/
  | verbatim (t : Text)

/-- What was printed, and what ended the printing early. -/
structure Printout where
  text : Text
  fault : Option PrintFault := none

namespace Block

/-- The text of a block before it is looked at for surrogates. -/
def text : Block → Except StyleFault Text
  | line t => (Table.render t).map (· ++ "\n")
  | table t => t.lines.map fun lines => lines.flatMap fun l => l ++ "\n"
  | verbatim t => .ok (t ++ "\n")

/-- Print a block. -/
def print (b : Block) : Except PrintFault Text :=
  match b.text with
  | .error f => .error (.style f)
  | .ok t =>
    match Utf8.unwritable? t with
    | some run => .error (.unwritable run)
    | none => .ok t

end Block

/-- Print blocks one after the other. -/
def Printout.ofBlocks : List Block → Printout
  | [] => ⟨[], none⟩
  | b :: rest =>
    match b.print with
    | .error f => ⟨[], some f⟩
    | .ok t =>
      let later := ofBlocks rest
      ⟨t ++ later.text, later.fault⟩

end Decouple
