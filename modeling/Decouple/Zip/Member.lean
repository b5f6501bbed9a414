import Decouple.Zip.Checksum
import Decouple.Zip.Directory

/-!
# Members of an archive

A member's header repeats its name; after it come the bytes of the member, stored as they are or
compressed.  The size and the checksum of the directory tell whether they are the right ones.
-/

namespace Decouple

namespace Zip

/-- The mark of a member's header. -/
def headerMark : Bytes := [0x50, 0x4B, 3, 4]

/-- The length of a member's header without its variable parts. -/
def headerLength : Nat := 30

/-- The bytes of a member as they are in the archive. -/
def packedBytes (archive : Bytes) (e : Entry) : Except ArchiveError Bytes :=
  if e.offset < 0 then .error (.position e.offset)
  else
    let header := archive.drop e.offset.toNat
    if header.length < headerLength then .error (.fault .headerCut)
    else if !hasMark headerMark header then .error (.fault .headerMark)
    else
      let nameLength := numberAt 26 2 header
      let name := (header.drop headerLength).take nameLength
      if e.hasFlag 5 then .error (.fault .patched)
      else if e.hasFlag 6 then .error (.fault .strongEncryption)
      else do
        let text ← liftName (readName (numberAt 6 2 header / 2048 % 2 = 1) name)
        let length := headerLength + nameLength + numberAt 28 2 header
        if text ≠ e.writtenName then .error (.fault (.names e.writtenName name))
        else if e.limit < min (e.offset + length) archive.length + e.packedSize then
          .error (.fault (.overlap e.writtenName))
        else if e.hasFlag 0 then .error (.fault (.encrypted e.shown))
        else .ok ((header.drop length).take e.packedSize)

/-- The bytes of a member that are stored by some method. -/
def unpack (method : Nat) (packed : Bytes) : Except ArchiveFault Unpacked :=
  if method = 0 then .ok ⟨packed, false⟩
  else if method = 8 then (inflate packed).mapError .data
  else .error .method

/-- Whether an archive ends before the content of a member does. -/
def isCut (e : Entry) (packed : Bytes) (u : Unpacked) : Bool :=
  packed.length < e.packedSize && (packed.isEmpty || !u.isEnded && u.bytes.length < e.size)

/-- The content of a member: no more bytes than its size, with its checksum. -/
def content (archive : Bytes) (e : Entry) : Except ArchiveError Bytes := do
  let packed ← packedBytes archive e
  let u ← liftFault (unpack e.method packed)
  if isCut e packed u then .error (.fault .dataCut)
  else if (checksum (u.bytes.take e.size)).toNat = e.checksum then .ok (u.bytes.take e.size)
  else .error (.fault (.checksum e.name))

end Zip

end Decouple
