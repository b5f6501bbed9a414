import Decouple.Text.Utf8

/-!
# Checksums of archive members

The cyclic redundancy check with the reflected polynomial 0xEDB88320.  `checksum` is a fold over
the bytes, so the checksum of a concatenation continues from that of its first part.
-/

namespace Decouple

namespace Zip

/-- Divide one bit off a remainder. -/
def divideBit (r : UInt32) : UInt32 :=
  if r &&& 1 = 1 then (r >>> 1) ^^^ 0xEDB88320 else r >>> 1

/-- Divide some bits off a remainder. -/
def divideBits : Nat → UInt32 → UInt32
  | 0, r => r
  | n + 1, r => divideBits n (divideBit r)

/-- The remainder after one more byte. -/
def addByte (r : UInt32) (b : UInt8) : UInt32 := divideBits 8 (r ^^^ b.toUInt32)

/-- The remainder after some more bytes. -/
def addBytes (r : UInt32) (bytes : Bytes) : UInt32 := bytes.foldl addByte r

/-- The checksum of some bytes. -/
def checksum (bytes : Bytes) : UInt32 := addBytes 0xFFFFFFFF bytes ^^^ 0xFFFFFFFF

theorem addBytes_append (r : UInt32) (a b : Bytes) :
    addBytes r (a ++ b) = addBytes (addBytes r a) b :=
  List.foldl_append

end Zip

end Decouple
