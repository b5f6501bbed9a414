import Decouple.Proofs.Packing
import Decouple.Zip.Writer
import Mathlib.Algebra.Group.Nat.Defs
import Mathlib.Data.List.Infix

/-!
# Archives keep what is written into them

An archive that was written holds its members (`Zip.holds_write`): the directory lists them in
their order, each entry with the name and the place of its member, and the bytes at that place are
those of the member, with its checksum.

The format limits what can be written.  Sizes and places have four bytes, lengths of names two, a
name ends at its first null code point, and what stands before the end record must not be taken
for the record that locates a wide end record.  `Zip.Fits` says that an archive is within these
limits.
-/

namespace Decouple

namespace Zip

variable {n place width : Nat} {m : Member} {ms : List Member} {archive tail : Bytes} {limit : Int}

/-! ## Numbers -/

/-- A number that its bytes have room for is read back from them. -/
theorem number_numberBytes (h : n < 256 ^ width) : number (numberBytes width n) = n := by
  induction width generalizing n with
  | zero =>
    rw [Nat.pow_zero] at h
    rw [Nat.lt_one_iff.1 h]
    rfl
  | succ width ih =>
    have hrest : n / 256 < 256 ^ width := by
      rw [Nat.div_lt_iff_lt_mul (by decide)]
      rwa [Nat.pow_succ] at h
    have hlow : (UInt8.ofNat (n % 256)).toNat = n % 256 :=
      UInt8.toNat_ofNat_of_lt (Nat.mod_lt _ (by decide))
    have hstep : number (numberBytes (width + 1) n) =
        (UInt8.ofNat (n % 256)).toNat + 256 * number (numberBytes width (n / 256)) := rfl
    rw [hstep, hlow, ih hrest]
    exact Nat.mod_add_div n 256

theorem length_numberBytes (width n : Nat) : (numberBytes width n).length = width := by
  induction width generalizing n with
  | zero => rfl
  | succ width ih => rw [numberBytes, List.length_cons, ih]

/-- A number behind some bytes is one of the bytes after them. -/
theorem numberAt_append {a b : Bytes} (h : a.length ≤ place) :
    numberAt place width (a ++ b) = numberAt (place - a.length) width b := by
  rw [numberAt, List.drop_append, List.drop_eq_nil_of_le h, List.nil_append, numberAt]

theorem numberAt_numberBytes (h : n < 256 ^ width) :
    numberAt 0 width (numberBytes width n ++ tail) = n := by
  rw [numberAt, List.drop_zero, List.take_left' (length_numberBytes width n), number_numberBytes h]

/-! ## Names -/

/-- A code point of one byte is written as that byte, in code page 437 as well. -/
theorem codePointOf_of_isAscii {c : CodePoint} (h : c.isAscii = true) :
    ∃ b, Utf8.encodeCodePoint c = [b] ∧ codePointOf b = c := by
  have hv : c.val < 128 := of_decide_eq_true h
  have hb : (UInt8.ofNat c.val).toNat = c.val := UInt8.toNat_ofNat_of_lt (by rw [UInt8.size]; omega)
  refine ⟨UInt8.ofNat c.val, if_pos hv, ?_⟩
  rw [codePointOf, if_pos (UInt8.lt_iff_toNat_lt.2 (by rw [hb]; exact hv)), hb]
  exact Utf8.ofNat_eq_of_val rfl

theorem map_codePointOf_encodeAll {t : Text} (h : t.all CodePoint.isAscii = true) :
    (Utf8.encodeAll t).map codePointOf = t := by
  induction t with
  | nil => rfl
  | cons c t ih =>
    rw [List.all_cons, Bool.and_eq_true] at h
    obtain ⟨b, hb, hc⟩ := codePointOf_of_isAscii h.1
    rw [Utf8.encodeAll, List.flatMap_cons, hb, ← Utf8.encodeAll, List.singleton_append,
      List.map_cons, hc, ih h.2]

/-- A name is read back under the flag that goes with it. -/
theorem readName_nameBytes (h : m.name.all (fun c => !c.isSurrogate) = true) :
    readName (m.flags / 2048 % 2 = 1) m.nameBytes = .ok m.name := by
  unfold Member.flags
  split
  · next hascii => exact congrArg Except.ok (map_codePointOf_encodeAll hascii)
  · exact Utf8.decode_encodeAll h

/-! ## Members within the limits -/

/-- Whether a member can be written: its name is a whole one and can be encoded, and the lengths of
name and content have room. -/
structure Member.Fits (m : Member) : Prop where
  null : ∀ c ∈ m.name, c.val ≠ 0
  scalar : m.name.all (fun c => !c.isSurrogate) = true
  name : m.nameBytes.length < 65536
  content : m.content.length < 4294967296

instance : Decidable m.Fits :=
  decidable_of_iff ((∀ c ∈ m.name, c.val ≠ 0) ∧ (m.name.all fun c => !c.isSurrogate) = true ∧
      m.nameBytes.length < 65536 ∧ m.content.length < 4294967296)
    ⟨fun ⟨null, scalar, name, content⟩ => ⟨null, scalar, name, content⟩,
      fun ⟨null, scalar, name, content⟩ => ⟨null, scalar, name, content⟩⟩

/-- The entry of a member that starts at a place and has to end at a limit. -/
def Member.entry (m : Member) (place : Nat) (limit : Int) : Entry where
  writtenName := m.name
  flags := m.flags
  method := 0
  checksum := (checksum m.content).toNat
  packedSize := m.content.length
  size := m.content.length
  attributes := 25165824
  offset := place
  limit

theorem Member.name_entry (h : m.Fits) : (m.entry place limit).name = m.name :=
  Packaging.cutName_eq_self h.null

theorem Member.flags_cases (m : Member) : m.flags = 0 ∨ m.flags = 2048 := by
  unfold flags
  split
  · exact Or.inl rfl
  · exact Or.inr rfl

theorem Member.flags_lt (m : Member) : m.flags < 65536 := by
  rcases m.flags_cases with h | h <;> omega

theorem Member.length_bytes (m : Member) :
    m.bytes.length = 30 + m.nameBytes.length + m.content.length := by
  simp only [bytes, commonBytes, List.length_append, length_numberBytes, List.length_cons,
    List.length_nil]

theorem Member.length_entryBytes (m : Member) (place : Nat) :
    (m.entryBytes place).length = 46 + m.nameBytes.length := by
  simp only [entryBytes, commonBytes, entryMark, List.length_append, length_numberBytes,
    List.length_cons, List.length_nil]

/-- The numbers that a header and a directory entry have in common are read back. -/
theorem numberAt_commonBytes (h : m.Fits) (tail : Bytes) :
    numberAt 0 1 (m.commonBytes ++ tail) = 20 ∧
    numberAt 2 2 (m.commonBytes ++ tail) = m.flags ∧
    numberAt 4 2 (m.commonBytes ++ tail) = 0 ∧
    numberAt 10 4 (m.commonBytes ++ tail) = (checksum m.content).toNat ∧
    numberAt 14 4 (m.commonBytes ++ tail) = m.content.length ∧
    numberAt 18 4 (m.commonBytes ++ tail) = m.content.length ∧
    numberAt 22 2 (m.commonBytes ++ tail) = m.nameBytes.length ∧
    numberAt 24 2 (m.commonBytes ++ tail) = 0 := by
  have hversion : numberAt 0 1 (m.commonBytes ++ tail) = 20 := rfl
  refine ⟨hversion, ?_⟩
  simp [Member.commonBytes, List.append_assoc, numberAt_append, numberAt_numberBytes,
    length_numberBytes, h.name, h.content, m.flags_lt, UInt32.toNat_lt (checksum m.content)]

theorem length_commonBytes (m : Member) : m.commonBytes.length = 26 := by
  simp [Member.commonBytes, length_numberBytes]

/-! ## Directory entries -/

/-- What a directory entry has between what it shares with the header and the name. -/
def placedBytes (place : Nat) : Bytes :=
  numberBytes 2 0 ++ (numberBytes 2 0 ++ (numberBytes 2 0 ++ (numberBytes 4 25165824 ++
    numberBytes 4 place)))

theorem entryBytes_append (m : Member) (place : Nat) (tail : Bytes) :
    m.entryBytes place ++ tail = (entryMark ++ numberBytes 2 788) ++ (m.commonBytes ++
      (placedBytes place ++ (m.nameBytes ++ tail))) := by
  simp only [Member.entryBytes, placedBytes, List.append_assoc]

theorem numberAt_entryBytes {k : Nat} (m : Member) (place : Nat) (tail : Bytes) :
    numberAt (6 + k) width (m.entryBytes place ++ tail) =
      numberAt k width (m.commonBytes ++ (placedBytes place ++ (m.nameBytes ++ tail))) := by
  rw [entryBytes_append, numberAt_append (by simp [entryMark, length_numberBytes])]
  congr 1
  simp [entryMark, length_numberBytes]

theorem numberAt_commonBytes_append {k : Nat} (m : Member) (tail : Bytes) :
    numberAt (26 + k) width (m.commonBytes ++ tail) = numberAt k width tail := by
  rw [numberAt_append (by rw [length_commonBytes]; omega), length_commonBytes,
    Nat.add_sub_cancel_left]

theorem numberAt_placedBytes (h : place < 4294967296) (tail : Bytes) :
    numberAt 0 2 (placedBytes place ++ tail) = 0 ∧
    numberAt 6 4 (placedBytes place ++ tail) = 25165824 ∧
    numberAt 10 4 (placedBytes place ++ tail) = place := by
  simp [placedBytes, List.append_assoc, numberAt_append, numberAt_numberBytes, length_numberBytes,
    h]

theorem partLengths_entryBytes (h : m.Fits) (hplace : place < 4294967296) (tail : Bytes) :
    partLengths (m.entryBytes place ++ tail) = (m.nameBytes.length, 0, 0) := by
  obtain ⟨-, -, -, -, -, -, hname, hextra⟩ :=
    numberAt_commonBytes h (placedBytes place ++ (m.nameBytes ++ tail))
  obtain ⟨hcomment, -, -⟩ := numberAt_placedBytes hplace (m.nameBytes ++ tail)
  rw [partLengths, numberAt_entryBytes (k := 22), numberAt_entryBytes (k := 24),
    numberAt_entryBytes (k := 26), numberAt_commonBytes_append (k := 0), hname, hextra, hcomment]

theorem entryLength_entryBytes (h : m.Fits) (hplace : place < 4294967296) (tail : Bytes) :
    entryLength (m.entryBytes place ++ tail) = (m.entryBytes place).length := by
  rw [entryLength, partLengths_entryBytes h hplace, m.length_entryBytes]
  rfl

theorem drop_entryBytes (m : Member) (place : Nat) (tail : Bytes) :
    (m.entryBytes place ++ tail).drop 46 = m.nameBytes ++ tail := by
  have hsplit : m.entryBytes place ++ tail =
      (entryMark ++ numberBytes 2 788 ++ m.commonBytes ++ placedBytes place) ++
        (m.nameBytes ++ tail) := by
    simp only [entryBytes_append, List.append_assoc]
  rw [hsplit]
  refine List.drop_left' ?_
  simp [entryMark, placedBytes, length_commonBytes, length_numberBytes]

/-- The entry of a member is read back, whatever comes after it. -/
theorem readEntry_entryBytes (h : m.Fits) (hplace : place < 4294967296) (tail : Bytes) :
    readEntry 0 (m.entryBytes place ++ tail) = .ok (m.entry place 0) := by
  obtain ⟨hversion, hflags, hmethod, hchecksum, hpacked, hsize, -, -⟩ :=
    numberAt_commonBytes h (placedBytes place ++ (m.nameBytes ++ tail))
  obtain ⟨-, hattributes, hoffset⟩ := numberAt_placedBytes hplace (m.nameBytes ++ tail)
  have hlength : ¬(m.entryBytes place ++ tail).length < 46 := by
    rw [List.length_append, m.length_entryBytes]
    omega
  have hmark : hasMark entryMark (m.entryBytes place ++ tail) = true := by
    rw [entryBytes_append]
    rfl
  unfold readEntry
  rw [if_neg hlength, hmark, partLengths_entryBytes h hplace, drop_entryBytes]
  dsimp only
  rw [if_neg (by decide), numberAt_entryBytes (k := 0), hversion, numberAt_entryBytes (k := 2),
    hflags, numberAt_entryBytes (k := 4), hmethod, numberAt_entryBytes (k := 10), hchecksum,
    numberAt_entryBytes (k := 14), hpacked, numberAt_entryBytes (k := 18), hsize,
    numberAt_entryBytes (k := 32), numberAt_commonBytes_append (k := 6), hattributes,
    numberAt_entryBytes (k := 36), numberAt_commonBytes_append (k := 10), hoffset,
    List.take_left' rfl, readName_nameBytes h.scalar]
  refine Step.bind_eq_ok.2 ⟨m.name, rfl, ?_⟩
  rw [if_neg (by decide), List.take_zero]
  refine Step.bind_eq_ok.2 ⟨⟨m.content.length, m.content.length, place⟩, rfl, ?_⟩
  dsimp only
  rw [Int.add_zero]
  rfl

/-! ## The directory -/

/-- The entries that are written for members of which the first starts at a place; their limits are
not written. -/
def entries (place : Nat) : List Member → List Entry
  | [] => []
  | m :: rest => m.entry place 0 :: entries (place + m.bytes.length) rest

/-- Where the member of an index starts. -/
def startOf (ms : List Member) (i : Nat) : Nat := ((ms.take i).flatMap Member.bytes).length

theorem length_entries (place : Nat) (ms : List Member) : (entries place ms).length = ms.length := by
  induction ms generalizing place with
  | nil => rfl
  | cons m ms ih => rw [entries, List.length_cons, ih, List.length_cons]

theorem startOf_length : startOf ms ms.length = (ms.flatMap Member.bytes).length := by
  rw [startOf, List.take_length]

theorem startOf_succ {i : Nat} (h : i < ms.length) :
    startOf ms (i + 1) = startOf ms i + ms[i].bytes.length := by
  rw [startOf, List.take_succ_eq_append_getElem h, List.flatMap_append, List.length_append,
    List.flatMap_singleton]
  rfl

theorem startOf_mono {i j : Nat} (h : i ≤ j) : startOf ms i ≤ startOf ms j := by
  have htake : ms.take i = (ms.take j).take i := by rw [List.take_take, Nat.min_eq_left h]
  rw [startOf, startOf, htake]
  exact (List.IsPrefix.flatMap (List.take_prefix i (ms.take j)) Member.bytes).length_le

/-- Later members start behind the end of this one. -/
theorem end_le_startOf {i j : Nat} (h : i < ms.length) (hij : i < j) :
    startOf ms i + ms[i].bytes.length ≤ startOf ms j := by
  rw [← startOf_succ h]
  exact startOf_mono hij

theorem getElem_entries {i : Nat} (place : Nat) (h : i < ms.length)
    (h' : i < (entries place ms).length) :
    (entries place ms)[i] = ms[i].entry (place + startOf ms i) 0 := by
  induction ms generalizing place i with
  | nil => cases h
  | cons m ms ih =>
    cases i with
    | zero => rfl
    | succ i =>
      have hi : i < ms.length := Nat.lt_of_succ_lt_succ h
      have hstart : startOf (m :: ms) (i + 1) = m.bytes.length + startOf ms i := by
        rw [startOf, List.take_succ_cons, List.flatMap_cons, List.length_append, startOf]
      rw [hstart, ← Nat.add_assoc]
      exact ih (place + m.bytes.length) hi (Nat.lt_of_succ_lt_succ h')

/-- The directory is read back as the entries of the members. -/
theorem readEntries_directoryBytes (place : Nat) (hms : ∀ m ∈ ms, m.Fits)
    (hplace : place + (ms.flatMap Member.bytes).length < 4294967296) :
    readEntries 0 (directoryBytes place ms).length (directoryBytes place ms) =
      .ok (entries place ms) := by
  induction ms generalizing place with
  | nil =>
    unfold readEntries
    rfl
  | cons m ms ih =>
    rw [List.flatMap_cons, List.length_append] at hplace
    have hm := hms m (List.mem_cons_self ..)
    have hentry := readEntry_entryBytes hm (by omega : place < 4294967296)
      (directoryBytes (place + m.bytes.length) ms)
    have hlength := entryLength_entryBytes hm (by omega : place < 4294967296)
      (directoryBytes (place + m.bytes.length) ms)
    have hrest := ih (place + m.bytes.length)
      (fun m' hm' => hms m' (List.mem_cons_of_mem _ hm')) (by omega)
    have hpos : ¬(m.entryBytes place ++ directoryBytes (place + m.bytes.length) ms).length = 0 := by
      rw [List.length_append, m.length_entryBytes]
      omega
    rw [directoryBytes]
    unfold readEntries
    rw [dif_neg hpos, hlength, List.drop_left' rfl, List.length_append, Nat.add_sub_cancel_left]
    refine Step.bind_eq_ok.2 ⟨m.entry place 0, hentry, ?_⟩
    exact Step.bind_eq_ok.2 ⟨entries (place + m.bytes.length) ms, hrest, rfl⟩

/-! ## The end record -/

/-- Where the end record of an archive with some members stands. -/
def endOf (ms : List Member) : Nat :=
  (ms.flatMap Member.bytes).length + (directoryBytes 0 ms).length

/-- Whether an archive with some members is within the limits of the format. -/
structure Fits (ms : List Member) : Prop where
  members : ∀ m ∈ ms, m.Fits
  size : endOf ms < 4294967296
  locator : hasMark locatorMark (((write ms).drop (endOf ms - 20)).take 20) = false

instance : Decidable (Fits ms) :=
  decidable_of_iff ((∀ m ∈ ms, m.Fits) ∧ endOf ms < 4294967296 ∧
      hasMark locatorMark (((write ms).drop (endOf ms - 20)).take 20) = false)
    ⟨fun ⟨members, size, locator⟩ => ⟨members, size, locator⟩,
      fun ⟨members, size, locator⟩ => ⟨members, size, locator⟩⟩

theorem length_endBytes (count length place : Nat) : (endBytes count length place).length = 22 := by
  simp [endBytes, endMark, length_numberBytes]

theorem length_write (ms : List Member) : (write ms).length = endOf ms + 22 := by
  rw [write, List.length_append, List.length_append, length_endBytes, endOf]

theorem drop_write_end (ms : List Member) : (write ms).drop (endOf ms) =
    endBytes ms.length (directoryBytes 0 ms).length (ms.flatMap Member.bytes).length :=
  List.drop_left' List.length_append

/-- The numbers of the end record are read back. -/
theorem numberAt_end (h : endOf ms < 4294967296) :
    numberAt 12 4 ((write ms).drop (endOf ms)) = (directoryBytes 0 ms).length ∧
    numberAt 16 4 ((write ms).drop (endOf ms)) = (ms.flatMap Member.bytes).length ∧
    numberAt 20 2 ((write ms).drop (endOf ms)) = 0 := by
  have hmark : endMark.length = 4 := rfl
  have hcomment : numberAt 0 2 (numberBytes 2 0) = 0 := rfl
  have hlength : (directoryBytes 0 ms).length < 4294967296 := by rw [endOf] at h; omega
  have hplace : (ms.flatMap Member.bytes).length < 4294967296 := by rw [endOf] at h; omega
  rw [drop_write_end, endBytes]
  simp [-List.length_flatMap, List.append_assoc, numberAt_append, numberAt_numberBytes,
    length_numberBytes, hmark, hlength, hplace, hcomment]

/-- The end record is found at the very end. -/
theorem endPlace?_write (h : endOf ms < 4294967296) : endPlace? (write ms) = some (endOf ms) := by
  obtain ⟨-, -, hcomment⟩ := numberAt_end h
  have hplace : (write ms).length - endLength = endOf ms := by
    rw [length_write, endLength, Nat.add_sub_cancel]
  unfold endPlace?
  dsimp only
  rw [hplace, hcomment, drop_write_end, length_endBytes]
  rfl

/-- The directory is where the end record says. -/
theorem directoryPlace_write (h : Fits ms) : directoryPlace (write ms) (endOf ms) =
    .ok ⟨endOf ms, (directoryBytes 0 ms).length, (ms.flatMap Member.bytes).length⟩ := by
  obtain ⟨hlength, hplace, -⟩ := numberAt_end h.size
  unfold directoryPlace
  dsimp only
  rw [h.locator, hlength, hplace]
  rfl

theorem drop_take_directory (ms : List Member) :
    ((write ms).drop (ms.flatMap Member.bytes).length).take (directoryBytes 0 ms).length =
      directoryBytes 0 ms := by
  rw [write, List.append_assoc, List.drop_left' rfl, List.take_left' rfl]

/-- The directory of a written archive lists its members. -/
theorem directory_write (h : Fits ms) : directory (write ms) =
    .ok (limited (ms.flatMap Member.bytes).length (entries 0 ms)) := by
  have hsize := h.size
  have hstart : endOf ms - (directoryBytes 0 ms).length = (ms.flatMap Member.bytes).length := by
    rw [endOf, Nat.add_sub_cancel]
  have hshift : DirectoryPlace.shift ⟨endOf ms, (directoryBytes 0 ms).length,
      (ms.flatMap Member.bytes).length⟩ = 0 := by
    rw [DirectoryPlace.shift, endOf]
    dsimp only
    omega
  have hread := readEntries_directoryBytes 0 h.members (by rw [endOf] at hsize; omega)
  unfold directory
  rw [endPlace?_write hsize]
  refine Step.bind_eq_ok.2 ⟨_, by rw [directoryPlace_write h]; rfl, ?_⟩
  dsimp only
  rw [if_neg (by rw [endOf]; omega), hstart, hshift, drop_take_directory]
  exact Step.bind_eq_ok.2 ⟨_, hread, rfl⟩

/-! ## Members -/

theorem bytes_append (m : Member) (tail : Bytes) : m.bytes ++ tail =
    headerMark ++ (m.commonBytes ++ (m.nameBytes ++ (m.content ++ tail))) := by
  simp only [Member.bytes, headerMark, List.append_assoc]

theorem numberAt_bytes {k : Nat} (m : Member) (tail : Bytes) :
    numberAt (4 + k) width (m.bytes ++ tail) =
      numberAt k width (m.commonBytes ++ (m.nameBytes ++ (m.content ++ tail))) := by
  have hmark : headerMark.length = 4 := rfl
  rw [bytes_append, numberAt_append (by rw [hmark]; omega), hmark, Nat.add_sub_cancel_left]

theorem drop_headerLength (m : Member) (tail : Bytes) :
    (m.bytes ++ tail).drop headerLength = m.nameBytes ++ (m.content ++ tail) := by
  rw [bytes_append, ← List.append_assoc]
  refine List.drop_left' ?_
  rw [List.length_append, length_commonBytes]
  rfl

/-- A member that starts at its place, with room for its bytes, has its content there. -/
theorem packedBytes_entry (h : m.Fits) (hdrop : archive.drop place = m.bytes ++ tail)
    (hlimit : (place : Int) + m.bytes.length ≤ limit) :
    packedBytes archive (m.entry place limit) = .ok m.content := by
  obtain ⟨-, hflags, -, -, -, -, hname, hextra⟩ :=
    numberAt_commonBytes h (m.nameBytes ++ (m.content ++ tail))
  have hlength := m.length_bytes
  have hoffset : (m.entry place limit).offset = place := rfl
  have hheader : ¬(m.bytes ++ tail).length < headerLength := by
    rw [List.length_append, hlength, headerLength]
    omega
  have hmark : hasMark headerMark (m.bytes ++ tail) = true := by
    rw [bytes_append]
    rfl
  have hflag : ∀ bit ∈ [0, 5, 6], (m.entry place limit).hasFlag bit = false := by
    have hsame : (m.entry place limit).flags = m.flags := rfl
    intro bit hbit
    rw [Entry.hasFlag, hsame]
    rcases m.flags_cases with h0 | h0 <;> rw [h0] <;> revert bit <;> decide
  have hroom : ¬(m.entry place limit).limit <
      min ((place : Int) + (headerLength + m.nameBytes.length + 0 : Nat)) archive.length +
        (m.entry place limit).packedSize := by
    have hsame : (m.entry place limit).limit = limit := rfl
    have hsize : (m.entry place limit).packedSize = m.content.length := rfl
    rw [hsame, hsize, headerLength]
    omega
  have hcontent : ((m.bytes ++ tail).drop (headerLength + m.nameBytes.length + 0)).take
      m.content.length = m.content := by
    rw [Nat.add_zero, ← List.drop_drop, drop_headerLength, List.drop_left' rfl,
      List.take_left' rfl]
  unfold packedBytes
  rw [hoffset, if_neg (Int.not_lt.2 (Int.natCast_nonneg place)), Int.toNat_natCast, hdrop]
  dsimp only
  rw [if_neg hheader, hmark, if_neg (by decide), hflag 5 (by decide), hflag 6 (by decide),
    if_neg (by decide), if_neg (by decide), numberAt_bytes (k := 2), hflags,
    numberAt_bytes (k := 22), hname, numberAt_bytes (k := 24), hextra, drop_headerLength,
    List.take_left' rfl, readName_nameBytes h.scalar]
  refine Step.bind_eq_ok.2 ⟨m.name, rfl, ?_⟩
  have hsame : ¬m.name ≠ (m.entry place limit).writtenName := not_not_intro rfl
  rw [if_neg hsame, if_neg hroom, hflag 0 (by decide), if_neg (by decide)]
  exact congrArg Except.ok hcontent

/-- The content of a member is that of its bytes, and its checksum is the one of its entry. -/
theorem content_entry (h : m.Fits) (hdrop : archive.drop place = m.bytes ++ tail)
    (hlimit : (place : Int) + m.bytes.length ≤ limit) :
    content archive (m.entry place limit) = .ok m.content := by
  have hcut : isCut (m.entry place limit) m.content ⟨m.content, false⟩ = false := by
    have hsize : (m.entry place limit).packedSize = m.content.length := rfl
    rw [isCut, hsize, decide_eq_false (Nat.lt_irrefl _), Bool.false_and]
  have hall : m.content.take (m.entry place limit).size = m.content := List.take_length
  refine Step.bind_eq_ok.2 ⟨m.content, packedBytes_entry h hdrop hlimit, ?_⟩
  refine Step.bind_eq_ok.2 ⟨⟨m.content, false⟩, rfl, ?_⟩
  rw [hcut, if_neg (by decide), hall]
  exact if_pos rfl

/-! ## All members -/

/-- Before the next member that starts later, the bytes of this one are over. -/
theorem end_le_nextOffset {i : Nat} (h : i < ms.length) :
    (startOf ms i : Int) + ms[i].bytes.length ≤
      nextOffset (ms.flatMap Member.bytes).length (startOf ms i) (entries 0 ms) := by
  unfold nextOffset
  split
  · next next hnext =>
    have hmem := List.min?_mem hnext
    rw [List.mem_filter] at hmem
    obtain ⟨hmem, hlater⟩ := hmem
    obtain ⟨e, he, hoffset⟩ := List.mem_map.1 hmem
    obtain ⟨j, hj, hej⟩ := List.getElem_of_mem he
    rw [length_entries] at hj
    rw [getElem_entries 0 hj, Nat.zero_add] at hej
    have hplace : next = startOf ms j := by rw [← hoffset, ← hej]; rfl
    have hlater : startOf ms i < startOf ms j := by
      rw [hplace] at hlater
      simpa using hlater
    have hij : i < j := by
      by_contra hle
      exact absurd (startOf_mono (Nat.not_lt.1 hle)) (Nat.not_le.2 hlater)
    have hend := end_le_startOf h hij
    omega
  · have hend := end_le_startOf h h
    rw [startOf_length] at hend
    omega

theorem getElem_limited {i : Nat} (h : i < ms.length)
    (h' : i < (limited (ms.flatMap Member.bytes).length (entries 0 ms)).length) :
    (limited (ms.flatMap Member.bytes).length (entries 0 ms))[i] = ms[i].entry (startOf ms i)
      (nextOffset (ms.flatMap Member.bytes).length (startOf ms i) (entries 0 ms)) := by
  have hi : i < (entries 0 ms).length := by rwa [length_entries]
  have hentry : (entries 0 ms)[i] = ms[i].entry (startOf ms i) 0 := by
    rw [getElem_entries 0 h hi, Nat.zero_add]
  -- No two members start at one place, so that no entry is taken for a second one of its member.
  have hfirst : ((entries 0 ms).take i).any
      (fun e => e.offset = (ms[i].entry (startOf ms i) 0).offset) = false := by
    rw [List.any_eq_false]
    intro e he
    obtain ⟨j, hj, hej⟩ := List.getElem_of_mem he
    rw [List.length_take] at hj
    rw [List.getElem_take, getElem_entries 0 (by omega), Nat.zero_add] at hej
    have hji : j < i := by omega
    have hend := end_le_startOf (by omega : j < ms.length) hji
    have hpos := ms[j].length_bytes
    rw [← hej, decide_eq_true_eq]
    change ¬((startOf ms j : Int) = startOf ms i)
    omega
  simp only [limited, List.getElem_map, List.getElem_zipIdx, Nat.zero_add]
  rw [hentry, hfirst, if_neg (by decide)]
  rfl

/-- The bytes of a member are at its start. -/
theorem exists_drop_write {i : Nat} (h : i < ms.length) :
    ∃ tail, (write ms).drop (startOf ms i) = ms[i].bytes ++ tail := by
  have hbody : ms.flatMap Member.bytes = (ms.take i).flatMap Member.bytes ++
      (ms[i].bytes ++ (ms.drop (i + 1)).flatMap Member.bytes) := by
    rw [← List.flatMap_cons, ← List.drop_eq_getElem_cons h, ← List.flatMap_append,
      List.take_append_drop]
  refine ⟨(ms.drop (i + 1)).flatMap Member.bytes ++ (directoryBytes 0 ms ++ endBytes ms.length
    (directoryBytes 0 ms).length (ms.flatMap Member.bytes).length), ?_⟩
  rw [write, List.append_assoc, hbody, List.append_assoc, List.append_assoc]
  exact List.drop_left' rfl

/-- An archive within the limits of the format holds what was written into it. -/
theorem holds_write (h : Fits ms) : Packaging.Holds (write ms) ms := by
  refine ⟨_, directory_write h, ?_⟩
  have hlength : ms.length = (limited (ms.flatMap Member.bytes).length (entries 0 ms)).length := by
    rw [limited, List.length_map, List.length_zipIdx, length_entries]
  rw [List.forall₂_iff_get]
  refine ⟨hlength, fun i hi hi' => ?_⟩
  rw [List.get_eq_getElem, List.get_eq_getElem, getElem_limited hi hi']
  have hm := h.members _ (List.getElem_mem hi)
  refine ⟨Member.name_entry hm, ?_⟩
  obtain ⟨tail, hdrop⟩ := exists_drop_write hi
  exact content_entry hm hdrop (end_le_nextOffset hi)

end Zip

end Decouple
