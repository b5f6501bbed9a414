import Decouple.Zip.Entry

/-!
# The directory of an archive

An archive ends with a record that says how long the directory is, which stands right before that
record.  Other data may come before the members and after the end record.  Positions in the
directory count from the first member.
-/

namespace Decouple

namespace Zip

/-- The length of an end record without its comment. -/
def endLength : Nat := 22

/-- The mark of an end record. -/
def endMark : Bytes := [0x50, 0x4B, 5, 6]

/-- The mark of a directory entry. -/
def entryMark : Bytes := [0x50, 0x4B, 1, 2]

/-- The mark of a wide end record, and that of the record that locates it. -/
def wideEndMark : Bytes := [0x50, 0x4B, 6, 6]
@[inherit_doc wideEndMark]
def locatorMark : Bytes := [0x50, 0x4B, 6, 7]

/-- Whether some bytes start with a mark. -/
def hasMark (mark bytes : Bytes) : Bool := bytes.take 4 == mark

/-- Where a mark stands last, `place` bytes being before these. -/
def lastMark? (mark : Bytes) (place : Nat) : Bytes → Option Nat
  | [] => none
  | b :: rest =>
    match lastMark? mark (place + 1) rest with
    | some found => some found
    | none => if hasMark mark (b :: rest) then some place else none

/-- Where the end record stands: at the very end, or before some other data of limited length. -/
def endPlace? (archive : Bytes) : Option Nat :=
  let last := archive.drop (archive.length - endLength)
  if last.length = endLength && hasMark endMark last && numberAt 20 2 last = 0 then
    some (archive.length - endLength)
  else
    let start := archive.length - 65536 - endLength
    match lastMark? endMark start (archive.drop start) with
    | some place => if archive.length < place + endLength then none else some place
    | none => none

/-- Where the directory is. -/
structure DirectoryPlace where
  /-- Where the record behind the directory stands. -/
  stop : Nat
  length : Nat
  /-- Where the directory says that it starts. -/
  offset : Nat
  deriving DecidableEq

/-- Where the end record at a place says that the directory is. -/
def directoryPlace (archive : Bytes) (place : Nat) : Except ArchiveFault DirectoryPlace :=
  let record := archive.drop place
  let plain : DirectoryPlace := ⟨place, numberAt 12 4 record, numberAt 16 4 record⟩
  let locator := (archive.drop (place - 20)).take 20
  if !hasMark locatorMark locator then .ok plain
  else if numberAt 4 4 locator ≠ 0 || 1 < numberAt 16 4 locator then .error .severalVolumes
  else
    let wide := (archive.drop (place - 76)).take 56
    if wide.length < 56 || !hasMark wideEndMark wide then .ok plain
    else .ok ⟨place - 76, numberAt 40 8 wide, numberAt 48 8 wide⟩

/-- How far members are from where the directory says that they are. -/
def DirectoryPlace.shift (d : DirectoryPlace) : Int := d.stop - d.length - d.offset

/-- The names of the wide numbers of an entry that are replaced by an extra field. -/
structure WideSizes where
  size : Nat
  packedSize : Nat
  offset : Nat

/-- The number that stands in for one that is written elsewhere. -/
def elsewhere : Nat := 0xFFFFFFFF

/-- A number, or the wide one that an extra field has for it. -/
def wideNumber (name : Text) (isElsewhere : Bool) (n : Nat) (field : Bytes) :
    Except ArchiveFault (Nat × Bytes) :=
  if !isElsewhere then .ok (n, field)
  else if field.length < 8 then .error (.wideField name)
  else .ok (numberAt 0 8 field, field.drop 8)

/-- The numbers of an entry after one extra field for wide numbers. -/
def readWide (w : WideSizes) (field : Bytes) : Except ArchiveFault WideSizes := do
  let (size, field) ←
    wideNumber "File size" (w.size = elsewhere || w.size = 0xFFFFFFFFFFFFFFFF) w.size field
  let (packedSize, field) ←
    wideNumber "Compress size" (w.packedSize = elsewhere) w.packedSize field
  let (offset, _) ← wideNumber "Header offset" (w.offset = elsewhere) w.offset field
  .ok ⟨size, packedSize, offset⟩

/-- The numbers of an entry after all its extra fields. -/
def readExtra (turns : Nat) (w : WideSizes) (extra : Bytes) : Except ArchiveFault WideSizes :=
  match turns with
  | 0 => .ok w
  | turns + 1 =>
    if extra.length < 4 then .ok w
    else
      let id := numberAt 0 2 extra
      let size := numberAt 2 2 extra
      if extra.length < size + 4 then .error (.extraField id size)
      else
        let rest := extra.drop (size + 4)
        if id = 1 then do
          let w ← readWide w ((extra.drop 4).take size)
          readExtra turns w rest
        else readExtra turns w rest

/-- The newest version of the format that is read, in tenths. -/
def newestVersion : Nat := 63

/-- An error of the archive's own. -/
def liftFault {α : Type} : Except ArchiveFault α → Except ArchiveError α
  | .ok a => .ok a
  | .error f => .error (.fault f)

/-- An error of a name. -/
def liftName {α : Type} : Except Utf8.Unreadable α → Except ArchiveError α
  | .ok a => .ok a
  | .error u => .error (.name u)

/-- The lengths of the variable parts of a directory entry: name, extra fields and comment. -/
def partLengths (record : Bytes) : Nat × Nat × Nat :=
  (numberAt 28 2 record, numberAt 30 2 record, numberAt 32 2 record)

/-- The length of a directory entry. -/
def entryLength (record : Bytes) : Nat :=
  46 + ((partLengths record).1 + (partLengths record).2.1 + (partLengths record).2.2)

/-- Read the directory entry at the start of some bytes. -/
def readEntry (shift : Int) (record : Bytes) : Except ArchiveError Entry :=
  if record.length < 46 then .error (.fault .directoryCut)
  else if !hasMark entryMark record then .error (.fault .directoryMark)
  else do
    let (nameLength, extraLength, _) := partLengths record
    let flags := numberAt 8 2 record
    let writtenName ← liftName (readName (flags / 2048 % 2 = 1) ((record.drop 46).take nameLength))
    if newestVersion < numberAt 6 1 record then
      .error (.fault (.version (numberAt 6 1 record)))
    else
      let extra := (record.drop (46 + nameLength)).take extraLength
      let wide ← liftFault (readExtra extra.length
        ⟨numberAt 24 4 record, numberAt 20 4 record, numberAt 42 4 record⟩ extra)
      .ok {
        writtenName
        flags
        method := numberAt 10 2 record
        checksum := numberAt 16 4 record
        packedSize := wide.packedSize
        size := wide.size
        attributes := numberAt 38 4 record
        offset := wide.offset + shift
        limit := 0 }

/-- Read directory entries until `left` bytes are used up. -/
def readEntries (shift : Int) (left : Nat) (bytes : Bytes) : Except ArchiveError (List Entry) :=
  if _h : left = 0 then .ok []
  else do
    let e ← readEntry shift bytes
    let rest ← readEntries shift (left - entryLength bytes) (bytes.drop (entryLength bytes))
    .ok (e :: rest)
termination_by left
decreasing_by simp only [entryLength]; omega

/-- The least of the offsets behind `offset`, or `stop` if there is none. -/
def nextOffset (stop offset : Int) (entries : List Entry) : Int :=
  match ((entries.map Entry.offset).filter (offset < ·)).min? with
  | some next => next
  | none => stop

/-- The entries, each with the place where it has to end: before the next member, or, for a
second entry of one member, before it starts. -/
def limited (stop : Int) (entries : List Entry) : List Entry :=
  entries.zipIdx.map fun (e, i) =>
    if (entries.take i).any (·.offset = e.offset) then { e with limit := e.offset }
    else { e with limit := nextOffset stop e.offset entries }

/-- The entries of an archive's directory. -/
def directory (archive : Bytes) : Except ArchiveError (List Entry) :=
  match endPlace? archive with
  | none => .error (.fault .notAnArchive)
  | some place => do
    let d ← liftFault (directoryPlace archive place)
    if d.stop < d.length then .error (.fault .directoryOffset)
    else
      let start := d.stop - d.length
      let entries ← readEntries d.shift d.length ((archive.drop start).take d.length)
      .ok (limited start entries)

end Zip

end Decouple
