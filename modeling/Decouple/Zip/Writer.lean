import Decouple.Zip.Checksum
import Decouple.Zip.Directory

/-!
# Writing archives

An archive is written as its members one after the other, each with a header, then the directory
and the end record.  Members are stored as they are.
-/

namespace Decouple

namespace Zip

/-- A member to write. -/
structure Member where
  name : Text
  content : Bytes
  deriving DecidableEq

namespace Member

/-- The name as it is written; the flag of a name that is not ASCII goes with it. -/
def nameBytes (m : Member) : Bytes := Utf8.encodeAll m.name

/-- The flags of a member. -/
def flags (m : Member) : Nat := if m.name.all CodePoint.isAscii then 0 else 2048

/-- What a header and a directory entry have in common, from the version to the length of the
extra fields. -/
def commonBytes (m : Member) : Bytes :=
  numberBytes 2 20 ++ numberBytes 2 m.flags ++ numberBytes 2 0 ++ numberBytes 2 0 ++
    numberBytes 2 33 ++ numberBytes 4 (checksum m.content).toNat ++
    numberBytes 4 m.content.length ++ numberBytes 4 m.content.length ++
    numberBytes 2 m.nameBytes.length ++ numberBytes 2 0

/-- A member with its header. -/
def bytes (m : Member) : Bytes :=
  [0x50, 0x4B, 3, 4] ++ m.commonBytes ++ m.nameBytes ++ m.content

/-- The directory entry of a member that starts at a place. -/
def entryBytes (m : Member) (place : Nat) : Bytes :=
  entryMark ++ numberBytes 2 788 ++ m.commonBytes ++ numberBytes 2 0 ++ numberBytes 2 0 ++
    numberBytes 2 0 ++ numberBytes 4 25165824 ++ numberBytes 4 place ++ m.nameBytes

end Member

/-- The directory of members of which the first starts at a place. -/
def directoryBytes (place : Nat) : List Member → Bytes
  | [] => []
  | m :: rest => m.entryBytes place ++ directoryBytes (place + m.bytes.length) rest

/-- The end record of an archive. -/
def endBytes (count length place : Nat) : Bytes :=
  endMark ++ numberBytes 2 0 ++ numberBytes 2 0 ++ numberBytes 2 count ++ numberBytes 2 count ++
    numberBytes 4 length ++ numberBytes 4 place ++ numberBytes 2 0

/-- An archive with some members. -/
def write (members : List Member) : Bytes :=
  let body := members.flatMap Member.bytes
  let listing := directoryBytes 0 members
  body ++ listing ++ endBytes members.length listing.length body.length

end Zip

end Decouple
