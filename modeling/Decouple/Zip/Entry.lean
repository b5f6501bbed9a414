import Decouple.Text.Quoted
import Decouple.Zip.Inflate

/-!
# Entries of an archive's directory

An entry names a member of an archive and says where and how it is stored.  Reading an archive
fails for causes of its own, for names that are no text, and for positions before the archive.
-/

namespace Decouple

namespace Zip

/-! ## Numbers -/

/-- The number that some bytes write, the lowest byte first. -/
def number (bytes : Bytes) : Nat := bytes.foldr (fun b n => b.toNat + 256 * n) 0

/-- The number in `width` bytes from a place on. -/
def numberAt (place width : Nat) (bytes : Bytes) : Nat := number ((bytes.drop place).take width)

/-- The `width` bytes that write a number, the lowest byte first. -/
def numberBytes : Nat → Nat → Bytes
  | 0, _ => []
  | width + 1, n => UInt8.ofNat (n % 256) :: numberBytes width (n / 256)

/-!
## Names

A member's name is UTF-8 when its flags say so.  Otherwise it is in code page 437, in which every
byte is a code point of its own.
-/

/-- The code points of the bytes from 128 on. -/
def upperHalf : List Nat := [
  199, 252, 233, 226, 228, 224, 229, 231, 234, 235, 232, 239, 238, 236, 196, 197, 201, 230, 198,
  244, 246, 242, 251, 249, 255, 214, 220, 162, 163, 165, 8359, 402, 225, 237, 243, 250, 241, 209,
  170, 186, 191, 8976, 172, 189, 188, 161, 171, 187, 9617, 9618, 9619, 9474, 9508, 9569, 9570,
  9558, 9557, 9571, 9553, 9559, 9565, 9564, 9563, 9488, 9492, 9524, 9516, 9500, 9472, 9532, 9566,
  9567, 9562, 9556, 9577, 9574, 9568, 9552, 9580, 9575, 9576, 9572, 9573, 9561, 9560, 9554, 9555,
  9579, 9578, 9496, 9484, 9608, 9604, 9612, 9616, 9600, 945, 223, 915, 960, 931, 963, 181, 964,
  934, 920, 937, 948, 8734, 966, 949, 8745, 8801, 177, 8805, 8804, 8992, 8993, 247, 8776, 176,
  8729, 183, 8730, 8319, 178, 9632, 160]

/-- The code point of a byte. -/
def codePointOf (b : UInt8) : CodePoint :=
  CodePoint.ofNat (if b < 128 then b.toNat else upperHalf.getD (b.toNat - 128) 0)

/-- The name that some bytes write. -/
def readName (isUtf8 : Bool) (bytes : Bytes) : Except Utf8.Unreadable Text :=
  if isUtf8 then Utf8.decode bytes else .ok (bytes.map codePointOf)

/-- A name up to its first null code point. -/
def cutName (name : Text) : Text := name.takeWhile (·.val ≠ 0)

/-! ## Entries -/

/-- An entry of an archive's directory. -/
structure Entry where
  /-- The name as it is written. -/
  writtenName : Text
  flags : Nat
  method : Nat
  checksum : Nat
  packedSize : Nat
  size : Nat
  attributes : Nat
  /-- Where the member starts. -/
  offset : Int
  /-- Where it has to end. -/
  limit : Int
  deriving DecidableEq

namespace Entry

/-- The name of the member. -/
def name (e : Entry) : Text := cutName e.writtenName

/-- Whether the entry names a folder. -/
def isFolder (e : Entry) : Bool := e.name.getLast? = some '/'

/-- Whether a flag is set. -/
def hasFlag (e : Entry) (bit : Nat) : Bool := (e.flags >>> bit) % 2 = 1

/-! ## How messages show an entry -/

/-- The names of storing methods. -/
def methodNames : List (Nat × Text) := [
  (0, "store"), (1, "shrink"), (2, "reduce"), (3, "reduce"), (4, "reduce"), (5, "reduce"),
  (6, "implode"), (7, "tokenize"), (8, "deflate"), (9, "deflate64"), (10, "implode"),
  (12, "bzip2"), (14, "lzma"), (18, "terse"), (19, "lz77"), (97, "wavpack"), (98, "ppmd")]

/-- The letter of a kind of file. -/
def kindLetter (kind : Nat) : CodePoint :=
  match kind with
  | 1 => 'p'
  | 2 => 'c'
  | 4 => 'd'
  | 6 => 'b'
  | 8 => '-'
  | 10 => 'l'
  | 12 => 's'
  | _ => '?'

/-- Three letters of permission; `special` is an extra bit with its letter. -/
def permissionLetters (bits : Nat) (special : Bool) (letter upper : CodePoint) : Text :=
  let run : CodePoint :=
    if bits % 2 = 1 then (if special then letter else 'x') else if special then upper else '-'
  [if bits / 4 % 2 = 1 then 'r' else '-', if bits / 2 % 2 = 1 then 'w' else '-', run]

/-- A file's kind and permissions. -/
def modeLetters (mode : Nat) : Text :=
  kindLetter (mode / 4096) ::
    (permissionLetters (mode / 64) (mode / 2048 % 2 = 1) 's' 'S' ++
      permissionLetters (mode / 8) (mode / 1024 % 2 = 1) 's' 'S' ++
      permissionLetters mode (mode / 512 % 2 = 1) 't' 'T')

/-- A part of the text that shows an entry. -/
def shownPart (shows : Bool) (name : Text) (value : Text) : Text :=
  if shows then " " ++ name ++ "=" ++ value else []

/-- The text that shows an entry. -/
def shown (e : Entry) : Text :=
  let mode := e.attributes / 65536
  let low := e.attributes % 65536
  "<ZipInfo filename=" ++ e.name.quoted ++
    shownPart (e.method ≠ 0) "compress_type"
      ((methodNames.lookup e.method).getD (Text.ofNat e.method)) ++
    shownPart (mode ≠ 0) "filemode" (modeLetters mode).quoted ++
    shownPart (low ≠ 0) "external_attr" ("0x" ++ Text.hex 1 low) ++
    shownPart (!e.isFolder || e.size ≠ 0) "file_size" (Text.ofNat e.size) ++
    shownPart
      ((!e.isFolder || e.packedSize ≠ 0) && (e.method ≠ 0 || e.size ≠ e.packedSize))
      "compress_size" (Text.ofNat e.packedSize) ++ ">"

end Entry

/-! ## Errors -/

/-- What is wrong with an archive. -/
inductive ArchiveFault where
  | notAnArchive
  | severalVolumes
  | directoryOffset
  | directoryCut
  | directoryMark
  | version (tenths : Nat)
  | extraField (id size : Nat)
  | wideField (name : Text)
  | headerCut
  | headerMark
  | patched
  | strongEncryption
  | names (listed : Text) (header : Bytes)
  | overlap (name : Text)
  | encrypted (shown : Text)
  | method
  | checksum (name : Text)
  | dataCut
  | data (f : DataFault)
  deriving DecidableEq

/-- Why an archive cannot be read. -/
inductive ArchiveError where
  | fault (f : ArchiveFault)
  /-- A name is not the text that its flags promise. -/
  | name (u : Utf8.Unreadable)
  /-- A member would start before the archive. -/
  | position (offset : Int)
  deriving DecidableEq

/-- A byte inside quotes. -/
def quotedByte (quote : CodePoint) (b : UInt8) : Text :=
  let c := CodePoint.ofNat b.toNat
  if b < 127 then Text.quotedCodePoint quote c else Text.numberEscape c

/-- Bytes in quotes. -/
def quotedBytes (bytes : Bytes) : Text :=
  let quote := Text.quoteFor (bytes.map fun b => CodePoint.ofNat b.toNat)
  "b" ++ (quote :: bytes.flatMap (quotedByte quote) ++ [quote])

/-- A fault in words. -/
def ArchiveFault.message : ArchiveFault → Text
  | .notAnArchive => "File is not a zip file"
  | .severalVolumes => "zipfiles that span multiple disks are not supported"
  | .directoryOffset => "Bad offset for central directory"
  | .directoryCut => "Truncated central directory"
  | .directoryMark => "Bad magic number for central directory"
  | .version tenths =>
    "zip file version " ++ Text.ofNat (tenths / 10) ++ "." ++ Text.ofNat (tenths % 10)
  | .extraField id size =>
    "Corrupt extra field " ++ Text.hex 4 id ++ " (size=" ++ Text.ofNat size ++ ")"
  | .wideField name => "Corrupt zip64 extra field. " ++ name ++ " not found."
  | .headerCut => "Truncated file header"
  | .headerMark => "Bad magic number for file header"
  | .patched => "compressed patched data (flag bit 5)"
  | .strongEncryption => "strong encryption (flag bit 6)"
  | .names listed header =>
    "File name in directory " ++ listed.quoted ++ " and header " ++ quotedBytes header ++ " differ."
  | .overlap name => "Overlapped entries: " ++ name.quoted ++ " (possible zip bomb)"
  | .encrypted shown => "File " ++ shown ++ " is encrypted, password required for extraction"
  | .method => "That compression method is not supported"
  | .checksum name => "Bad CRC-32 for file " ++ name.quoted
  | .dataCut => []
  | .data f => "Error -3 while decompressing data: " ++ f.message

end Zip

end Decouple
