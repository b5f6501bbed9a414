import Decouple.Text.Utf8

/-!
# Compressed data

Compressed data is a sequence of blocks: stored bytes, or literals and copies of earlier output
under a fixed or a described code.  `inflate` gives what was written before reading stopped, and
why it stopped; data that ends early is no fault of itself.
-/

namespace Decouple

/-!
## Codes of compressed data

A code gives each symbol a length in bits; symbols of one length take their codewords in order,
and shorter codewords come first.  Such a code is a binary tree whose leaves, from left to right,
are the symbols in the order of their lengths.  A code may use up all codewords, leave some, or
ask for more than there are.
-/

namespace Zip

/-- Bits in the order in which they are read. -/
abbrev Bits := List Bool

/-- What is wrong with compressed data. -/
inductive DataFault where
  | blockType
  | storedLengths
  | symbolCounts
  | lengthCode
  | lengthRepeat
  | missingEnd
  | literalCode
  | distanceCode
  | literal
  | distance
  | distanceTooFar
  deriving DecidableEq

/-- Why reading stops before the end of the data. -/
inductive Halt where
  | bitsEnd
  | fault (f : DataFault)
  deriving DecidableEq

namespace Bits

/-- The bits of a byte, the lowest first. -/
def ofByte (b : UInt8) : Bits :=
  (List.range 8).map fun i => (b.toNat >>> i) % 2 = 1

/-- The bits of some bytes. -/
def ofBytes (bytes : Bytes) : Bits := bytes.flatMap ofByte

/-- The number in the next `n` bits, the lowest first, and the bits after them. -/
def number (n : Nat) (bits : Bits) : Except Halt (Nat × Bits) :=
  match n, bits with
  | 0, rest => .ok (0, rest)
  | _ + 1, [] => .error .bitsEnd
  | n + 1, b :: rest => (number n rest).map fun (value, rest) => (b.toNat + 2 * value, rest)

end Bits

/-- A code as a tree. -/
inductive CodeTree where
  | unused
  | leaf (symbol : Nat)
  | node (zero one : CodeTree)
  deriving DecidableEq

namespace CodeTree

/-- No codeword is longer. -/
def maxLength : Nat := 15

/-- The symbols of a code with their lengths, in the order of the leaves. -/
def leaves (lengths : List Nat) : List (Nat × Nat) :=
  let symbols := lengths.zipIdx
  (List.range maxLength).flatMap fun i => symbols.filter fun p => p.1 = i + 1

/-- The tree at a depth for the first of some leaves, and the leaves that it has no room for. -/
def grow (levels depth : Nat) (todo : List (Nat × Nat)) : CodeTree × List (Nat × Nat) :=
  match levels, todo with
  | _, [] => (.unused, [])
  | 0, (length, symbol) :: rest =>
    if length = depth then (.leaf symbol, rest) else (.unused, (length, symbol) :: rest)
  | levels + 1, (length, symbol) :: rest =>
    if length = depth then (.leaf symbol, rest)
    else
      let (zero, rest) := grow levels (depth + 1) ((length, symbol) :: rest)
      let (one, rest) := grow levels (depth + 1) rest
      (.node zero one, rest)

/-- The tree of a code, and the symbols that found no codeword.  Even without symbols a bit is
read before a codeword turns out to be unused. -/
def ofLengths (lengths : List Nat) : CodeTree × List (Nat × Nat) :=
  match leaves lengths with
  | [] => (.node .unused .unused, [])
  | todo => grow maxLength 0 todo

/-- Whether no codeword is unused. -/
def isComplete : CodeTree → Bool
  | .unused => false
  | .leaf _ => true
  | .node zero one => zero.isComplete && one.isComplete

/-- The tree of a code that uses up all codewords.  A code without symbols passes, and with
`allowSingle` also one whose symbols are a single codeword of one bit. -/
def ofLengths? (allowSingle : Bool) (lengths : List Nat) : Option CodeTree :=
  let (tree, left) := ofLengths lengths
  let longest := lengths.foldl max 0
  if left.isEmpty && (tree.isComplete || longest = 0 || allowSingle && longest = 1) then some tree
  else none

/-- The symbol of the next codeword, `none` for an unused one, and the bits after it. -/
def read : CodeTree → Bits → Except Halt (Option Nat × Bits)
  | .unused, bits => .ok (none, bits)
  | .leaf symbol, bits => .ok (some symbol, bits)
  | .node _ _, [] => .error .bitsEnd
  | .node zero one, b :: rest => if b then one.read rest else zero.read rest

end CodeTree

/-! ## Symbols -/

/-- The codes of a block: for literals and lengths, and for distances. -/
structure BlockCodes where
  literals : CodeTree
  distances : CodeTree

/-- What a block says next. -/
inductive Item where
  | literal (b : UInt8)
  | copy (length distance : Nat)
  | blockEnd
  deriving DecidableEq

/-- The least length of each length symbol, from symbol 257 on, with the bits that add to it. -/
def lengthTable : List (Nat × Nat) := [
  (3, 0), (4, 0), (5, 0), (6, 0), (7, 0), (8, 0), (9, 0), (10, 0), (11, 1), (13, 1), (15, 1),
  (17, 1), (19, 2), (23, 2), (27, 2), (31, 2), (35, 3), (43, 3), (51, 3), (59, 3), (67, 4),
  (83, 4), (99, 4), (115, 4), (131, 5), (163, 5), (195, 5), (227, 5), (258, 0)]

/-- The least distance of each distance symbol, with the bits that add to it. -/
def distanceTable : List (Nat × Nat) := [
  (1, 0), (2, 0), (3, 0), (4, 0), (5, 1), (7, 1), (9, 2), (13, 2), (17, 3), (25, 3), (33, 4),
  (49, 4), (65, 5), (97, 5), (129, 6), (193, 6), (257, 7), (385, 7), (513, 8), (769, 8),
  (1025, 9), (1537, 9), (2049, 10), (3073, 10), (4097, 11), (6145, 11), (8193, 12), (12289, 12),
  (16385, 13), (24577, 13)]

/-- Read a symbol whose meaning is a row of a table, counted from `first`. -/
def readRow (table : List (Nat × Nat)) (first : Nat) (f : DataFault) (symbol : Option Nat)
    (bits : Bits) : Except Halt (Nat × Bits) :=
  match symbol.bind fun s => table[s - first]? with
  | none => .error (.fault f)
  | some (least, extra) => (Bits.number extra bits).map fun (n, rest) => (least + n, rest)

/-- Read a distance within the output so far. -/
def readDistance (codes : BlockCodes) (written : Nat) (bits : Bits) :
    Except Halt (Nat × Bits) := do
  let (symbol, bits) ← codes.distances.read bits
  let (distance, bits) ← readRow distanceTable 0 .distance symbol bits
  if written < distance then .error (.fault .distanceTooFar) else .ok (distance, bits)

/-- Read the next item of a block. -/
def readItem (codes : BlockCodes) (written : Nat) (bits : Bits) : Except Halt (Item × Bits) := do
  let (symbol, bits) ← codes.literals.read bits
  if symbol.any (· < 256) then .ok (.literal (UInt8.ofNat (symbol.getD 0)), bits)
  else if symbol = some 256 then .ok (.blockEnd, bits)
  else
    let (length, bits) ← readRow lengthTable 257 .literal symbol bits
    let (distance, bits) ← readDistance codes written bits
    .ok (.copy length distance, bits)

/-- The output with a piece of itself copied to its end, byte by byte. -/
def copyBack : Nat → Nat → Array UInt8 → Array UInt8
  | 0, _, out => out
  | n + 1, distance, out => copyBack n distance (out.push (out.getD (out.size - distance) 0))

/-- The output with the items of a block, and where they end.  Each item takes at least one bit,
so as many turns as there are bits are enough. -/
def writeItems (codes : BlockCodes) (turns : Nat) (bits : Bits) (out : Array UInt8) :
    Array UInt8 × Except Halt Bits :=
  match turns with
  | 0 => (out, .error .bitsEnd)
  | turns + 1 =>
    match readItem codes out.size bits with
    | .error h => (out, .error h)
    | .ok (.literal b, rest) => writeItems codes turns rest (out.push b)
    | .ok (.copy length distance, rest) =>
      writeItems codes turns rest (copyBack length distance out)
    | .ok (.blockEnd, rest) => (out, .ok rest)

/-! ## Codes -/

/-- The lengths of the fixed code for literals and lengths. -/
def fixedLengths : List Nat :=
  List.replicate 144 8 ++ List.replicate 112 9 ++ List.replicate 24 7 ++ List.replicate 8 8

/-- The fixed codes. -/
def fixedCodes : BlockCodes where
  literals := (CodeTree.ofLengths fixedLengths).1
  distances := (CodeTree.ofLengths (List.replicate 32 5)).1

/-- The order in which the lengths of the code for lengths are written. -/
def lengthOrder : List Nat := [16, 17, 18, 0, 8, 7, 9, 6, 10, 5, 11, 4, 12, 3, 13, 2, 14, 1, 15]

/-- Read `n` numbers of three bits. -/
def readTriples : Nat → Bits → Except Halt (List Nat × Bits)
  | 0, bits => .ok ([], bits)
  | n + 1, bits => do
    let (first, bits) ← Bits.number 3 bits
    let (rest, bits) ← readTriples n bits
    .ok (first :: rest, bits)

/-- The lengths of the code for lengths, in the order of its symbols. -/
def orderedLengths (written : List Nat) : List Nat :=
  (List.range 19).map fun symbol => ((lengthOrder.zip written).lookup symbol).getD 0

/-- Read `n` lengths; `done` are those before them, the last first. -/
def readLengths (tree : CodeTree) (turns n : Nat) (done : List Nat) (bits : Bits) :
    Except Halt (List Nat × Bits) :=
  match turns with
  | 0 => .error .bitsEnd
  | turns + 1 =>
    if done.length = n then .ok (done.reverse, bits)
    else do
      let (symbol, bits) ← tree.read bits
      let symbol := symbol.getD 0
      if symbol < 16 then readLengths tree turns n (symbol :: done) bits
      else
        let (extra, least, value) :=
          if symbol = 16 then (2, 3, done.headD 0)
          else if symbol = 17 then (3, 3, 0)
          else (7, 11, 0)
        let (more, bits) ← Bits.number extra bits
        if symbol = 16 && done.isEmpty || n < done.length + least + more then
          .error (.fault .lengthRepeat)
        else readLengths tree turns n (List.replicate (least + more) value ++ done) bits

/-- Require a code to be well formed. -/
def requireCode (allowSingle : Bool) (f : DataFault) (lengths : List Nat) :
    Except Halt CodeTree :=
  match CodeTree.ofLengths? allowSingle lengths with
  | some tree => .ok tree
  | none => .error (.fault f)

/-- Read the codes that a block describes. -/
def readCodes (bits : Bits) : Except Halt (BlockCodes × Bits) := do
  let (literals, bits) ← Bits.number 5 bits
  let (distances, bits) ← Bits.number 5 bits
  let (triples, bits) ← Bits.number 4 bits
  if 286 < literals + 257 || 30 < distances + 1 then .error (.fault .symbolCounts)
  else
    let (written, bits) ← readTriples (triples + 4) bits
    let tree ← requireCode false .lengthCode (orderedLengths written)
    let (lengths, bits) ←
      readLengths tree (bits.length + 1) (literals + 257 + (distances + 1)) [] bits
    if lengths.getD 256 0 = 0 then .error (.fault .missingEnd)
    else
      let literalTree ← requireCode true .literalCode (lengths.take (literals + 257))
      let distanceTree ← requireCode true .distanceCode (lengths.drop (literals + 257))
      .ok (⟨literalTree, distanceTree⟩, bits)

/-! ## Blocks -/

/-- The output with up to `n` stored bytes, and where they end. -/
def writeStored : Nat → Bits → Array UInt8 → Array UInt8 × Except Halt Bits
  | 0, bits, out => (out, .ok bits)
  | n + 1, bits, out =>
    match Bits.number 8 bits with
    | .error h => (out, .error h)
    | .ok (b, rest) => writeStored n rest (out.push (UInt8.ofNat b))

/-- The number of stored bytes, which is written twice, the second time inverted. -/
def readStoredCount (bits : Bits) : Except Halt (Nat × Bits) := do
  let (n, bits) ← Bits.number 16 bits
  let (inverted, bits) ← Bits.number 16 bits
  if n + inverted = 65535 then .ok (n, bits) else .error (.fault .storedLengths)

/-- The bits from the next whole byte on. -/
def toWholeByte (bits : Bits) : Bits := bits.drop (bits.length % 8)

/-- Read the start of a block: whether it is the last one, and its kind. -/
def readBlockStart (bits : Bits) : Except Halt (Nat × Nat × Bits) := do
  let (last, bits) ← Bits.number 1 bits
  let (kind, bits) ← Bits.number 2 bits
  .ok (last, kind, bits)

/-- The output with a block of some kind, and where it ends. -/
def writeBlock (kind : Nat) (bits : Bits) (out : Array UInt8) : Array UInt8 × Except Halt Bits :=
  if kind = 0 then
    match readStoredCount (toWholeByte bits) with
    | .error h => (out, .error h)
    | .ok (n, rest) => writeStored n rest out
  else if kind = 1 then writeItems fixedCodes (bits.length + 1) bits out
  else if kind = 2 then
    match readCodes bits with
    | .error h => (out, .error h)
    | .ok (codes, rest) => writeItems codes (rest.length + 1) rest out
  else (out, .error (.fault .blockType))

/-- The output with all blocks, and why reading stopped before their end, if it did. -/
def writeBlocks (turns : Nat) (bits : Bits) (out : Array UInt8) : Array UInt8 × Option Halt :=
  match turns with
  | 0 => (out, some .bitsEnd)
  | turns + 1 =>
    match readBlockStart bits with
    | .error h => (out, some h)
    | .ok (last, kind, rest) =>
      match writeBlock kind rest out with
      | (out, .error h) => (out, some h)
      | (out, .ok rest) => if last = 1 then (out, none) else writeBlocks turns rest out

/-- Bytes that were read from a member. -/
structure Unpacked where
  bytes : Bytes
  /-- Whether the data itself says that nothing follows. -/
  isEnded : Bool
  deriving DecidableEq

/-- What compressed data says, as far as it goes. -/
def inflate (data : Bytes) : Except DataFault Unpacked :=
  let bits := Bits.ofBytes data
  match writeBlocks (bits.length + 1) bits #[] with
  | (_, some (.fault f)) => .error f
  | (out, some .bitsEnd) => .ok ⟨out.toList, false⟩
  | (out, none) => .ok ⟨out.toList, true⟩

/-- A fault in words. -/
def DataFault.message : DataFault → Text
  | .blockType => "invalid block type"
  | .storedLengths => "invalid stored block lengths"
  | .symbolCounts => "too many length or distance symbols"
  | .lengthCode => "invalid code lengths set"
  | .lengthRepeat => "invalid bit length repeat"
  | .missingEnd => "invalid code -- missing end-of-block"
  | .literalCode => "invalid literal/lengths set"
  | .distanceCode => "invalid distances set"
  | .literal => "invalid literal/length code"
  | .distance => "invalid distance code"
  | .distanceTooFar => "invalid distance too far back"

end Zip

end Decouple
