import Decouple.Text.Numeral
import Decouple.Text.UnicodeName.Alphabets
import Decouple.Text.UnicodeName.EastAsia
import Decouple.Text.UnicodeName.History
import Decouple.Text.UnicodeName.Pictures
import Decouple.Text.UnicodeName.Scripts
import Decouple.Text.UnicodeName.Symbols

/-!
# Unicode names

The code point that a name of the standard stands for (version 14).  Most names are listed; those
of Korean syllables are put together from their letters, and those of ideographs end in the number
of their code point.  Syllables and unified ideographs have names in capitals only; of all others
the case does not count.
-/

namespace Decouple

namespace UnicodeName

/-- A letter in upper case. -/
def capital (c : CodePoint) : CodePoint := if c.isLower then CodePoint.ofNat (c.val - 32) else c

/-! ## Korean syllables -/

/-- What the names of syllables start with, by their first letter. -/
def firstSounds : List Text :=
  ["G", "GG", "N", "D", "DD", "R", "M", "B", "BB", "S", "SS", "", "J", "JJ", "C", "K", "T", "P",
    "H"]

/-- What stands in the middle of the names of syllables. -/
def middleSounds : List Text :=
  ["A", "AE", "YA", "YAE", "EO", "E", "YEO", "YE", "O", "WA", "WAE", "OE", "YO", "U", "WEO", "WE",
    "WI", "YU", "EU", "YI", "I"]

/-- What the names of syllables end with, by their last letters. -/
def lastSounds : List Text :=
  ["", "G", "GG", "GS", "N", "NJ", "NH", "D", "L", "LG", "LM", "LB", "LS", "LT", "LP", "LH", "M",
    "B", "BS", "S", "SS", "NG", "J", "C", "K", "T", "P", "H"]

/-- The longest of some sounds that a text starts with: its index, and the rest of the text. -/
def sound? (sounds : List Text) (t : Text) : Option (Nat × Text) :=
  let found := sounds.zipIdx.foldl
    (fun best (sound, index) =>
      if sound.isPrefixOf t && best.all (fun b => b.2 < sound.length) then
        some (index, sound.length)
      else best)
    (none : Option (Nat × Nat))
  found.map fun (index, length) => (index, t.drop length)

/-- The number of the syllable with these sounds. -/
def syllable? (sounds : Text) : Option Nat := do
  let (first, rest) ← sound? firstSounds sounds
  let (middle, rest) ← sound? middleSounds rest
  let (last, rest) ← sound? lastSounds rest
  if rest.isEmpty then some (0xAC00 + (first * 21 + middle) * 28 + last) else none

/-! ## Names that end in a number -/

/-- The value of hexadecimal digits. -/
def hexadecimal? (digits : Text) : Option Nat :=
  digits.foldlM (fun n c => c.hexValue?.map (n * 16 + ·)) 0

/-- The unified ideographs, as closed ranges. -/
def ideographs : List (Nat × Nat) := [
  (0x3400, 0x4DBF), (0x4E00, 0x9FFF), (0x20000, 0x2A6DF), (0x2A700, 0x2B738), (0x2B740, 0x2B81D),
  (0x2B820, 0x2CEA1), (0x2CEB0, 0x2EBE0), (0x30000, 0x3134A)]

/-- The number of the unified ideograph whose name ends in these digits, four or five of them. -/
def ideograph? (digits : Text) : Option Nat := do
  let n ← hexadecimal? digits
  if (digits.length = 4 || digits.length = 5) && digits.all (fun c => c.isDigit || c.isUpper) &&
      CodePoint.inRanges ideographs n then some n
  else none

/-- What further names with a number start with, and the closed ranges of the numbers. -/
def numbered : List (Text × List (Nat × Nat)) := [
  ("CJK COMPATIBILITY IDEOGRAPH-", [(0xF900, 0xFA6D), (0xFA70, 0xFAD9), (0x2F800, 0x2FA1D)]),
  ("KHITAN SMALL SCRIPT CHARACTER-", [(0x18B00, 0x18CD5)]),
  ("NUSHU CHARACTER-", [(0x1B170, 0x1B2FB)])]

/-- The number that a name in capitals ends in, if such names do; zeros before it do not count. -/
def number? (name : Text) : Option Nat :=
  numbered.findSome? fun (start, ranges) => do
    let digits ← Text.dropStart? start name
    let n ← hexadecimal? digits
    if CodePoint.inRanges ranges n && digits.length = (Text.hex 4 n).length then some n else none

/-!
## Listed names

The standard gives some code points more names: control codes, which have no other ones, short
forms, and names that put a mistake in a name right.
-/

/-- Code points with their further names. -/
def furtherNames : List (Nat × String) := [
  (0x0000, "NULL,NUL"), (0x0001, "START OF HEADING,SOH"), (0x0002, "START OF TEXT,STX"),
  (0x0003, "END OF TEXT,ETX"), (0x0004, "END OF TRANSMISSION,EOT"), (0x0005, "ENQUIRY,ENQ"),
  (0x0006, "ACKNOWLEDGE,ACK"), (0x0007, "ALERT,BEL"), (0x0008, "BACKSPACE,BS"),
  (0x0009, "CHARACTER TABULATION,HORIZONTAL TABULATION,HT,TAB"),
  (0x000A, "LINE FEED,NEW LINE,END OF LINE,EOL,LF,NL"),
  (0x000B, "LINE TABULATION,VERTICAL TABULATION,VT"), (0x000C, "FORM FEED,FF"),
  (0x000D, "CARRIAGE RETURN,CR"), (0x000E, "SHIFT OUT,LOCKING-SHIFT ONE,SO"),
  (0x000F, "SHIFT IN,LOCKING-SHIFT ZERO,SI"), (0x0010, "DATA LINK ESCAPE,DLE"),
  (0x0011, "DEVICE CONTROL ONE,DC1"), (0x0012, "DEVICE CONTROL TWO,DC2"),
  (0x0013, "DEVICE CONTROL THREE,DC3"), (0x0014, "DEVICE CONTROL FOUR,DC4"),
  (0x0015, "NEGATIVE ACKNOWLEDGE,NAK"), (0x0016, "SYNCHRONOUS IDLE,SYN"),
  (0x0017, "END OF TRANSMISSION BLOCK,ETB"), (0x0018, "CANCEL,CAN"), (0x0019, "END OF MEDIUM,EOM"),
  (0x001A, "SUBSTITUTE,SUB"), (0x001B, "ESCAPE,ESC"),
  (0x001C, "INFORMATION SEPARATOR FOUR,FILE SEPARATOR,FS"),
  (0x001D, "INFORMATION SEPARATOR THREE,GROUP SEPARATOR,GS"),
  (0x001E, "INFORMATION SEPARATOR TWO,RECORD SEPARATOR,RS"),
  (0x001F, "INFORMATION SEPARATOR ONE,UNIT SEPARATOR,US"), (0x0020, "SP"), (0x007F, "DELETE,DEL"),
  (0x0080, "PADDING CHARACTER,PAD"), (0x0081, "HIGH OCTET PRESET,HOP"),
  (0x0082, "BREAK PERMITTED HERE,BPH"), (0x0083, "NO BREAK HERE,NBH"), (0x0084, "INDEX,IND"),
  (0x0085, "NEXT LINE,NEL"), (0x0086, "START OF SELECTED AREA,SSA"),
  (0x0087, "END OF SELECTED AREA,ESA"),
  (0x0088, "CHARACTER TABULATION SET,HORIZONTAL TABULATION SET,HTS"),
  (0x0089, "CHARACTER TABULATION WITH JUSTIFICATION,HORIZONTAL TABULATION WITH JUSTIFICATION,HTJ"),
  (0x008A, "LINE TABULATION SET,VERTICAL TABULATION SET,VTS"),
  (0x008B, "PARTIAL LINE FORWARD,PARTIAL LINE DOWN,PLD"),
  (0x008C, "PARTIAL LINE BACKWARD,PARTIAL LINE UP,PLU"),
  (0x008D, "REVERSE LINE FEED,REVERSE INDEX,RI"), (0x008E, "SINGLE SHIFT TWO,SINGLE-SHIFT-2,SS2"),
  (0x008F, "SINGLE SHIFT THREE,SINGLE-SHIFT-3,SS3"), (0x0090, "DEVICE CONTROL STRING,DCS"),
  (0x0091, "PRIVATE USE ONE,PRIVATE USE-1,PU1"), (0x0092, "PRIVATE USE TWO,PRIVATE USE-2,PU2"),
  (0x0093, "SET TRANSMIT STATE,STS"), (0x0094, "CANCEL CHARACTER,CCH"),
  (0x0095, "MESSAGE WAITING,MW"), (0x0096, "START OF GUARDED AREA,START OF PROTECTED AREA,SPA"),
  (0x0097, "END OF GUARDED AREA,END OF PROTECTED AREA,EPA"), (0x0098, "START OF STRING,SOS"),
  (0x0099, "SINGLE GRAPHIC CHARACTER INTRODUCER,SGC"), (0x009A, "SINGLE CHARACTER INTRODUCER,SCI"),
  (0x009B, "CONTROL SEQUENCE INTRODUCER,CSI"), (0x009C, "STRING TERMINATOR,ST"),
  (0x009D, "OPERATING SYSTEM COMMAND,OSC"), (0x009E, "PRIVACY MESSAGE,PM"),
  (0x009F, "APPLICATION PROGRAM COMMAND,APC"), (0x00A0, "NBSP"), (0x00AD, "SHY"),
  (0x01A2, "LATIN CAPITAL LETTER GHA"), (0x01A3, "LATIN SMALL LETTER GHA"), (0x034F, "CGJ"),
  (0x061C, "ALM"), (0x0709, "SYRIAC SUBLINEAR COLON SKEWED LEFT"), (0x0CDE, "KANNADA LETTER LLLA"),
  (0x0E9D, "LAO LETTER FO FON"), (0x0E9F, "LAO LETTER FO FAY"), (0x0EA3, "LAO LETTER RO"),
  (0x0EA5, "LAO LETTER LO"), (0x0FD0, "TIBETAN MARK BKA- SHOG GI MGO RGYAN"),
  (0x11EC, "HANGUL JONGSEONG YESIEUNG-KIYEOK"), (0x11ED, "HANGUL JONGSEONG YESIEUNG-SSANGKIYEOK"),
  (0x11EE, "HANGUL JONGSEONG SSANGYESIEUNG"), (0x11EF, "HANGUL JONGSEONG YESIEUNG-KHIEUKH"),
  (0x180B, "FVS1"), (0x180C, "FVS2"), (0x180D, "FVS3"), (0x180E, "MVS"), (0x180F, "FVS4"),
  (0x200B, "ZWSP"), (0x200C, "ZWNJ"), (0x200D, "ZWJ"), (0x200E, "LRM"), (0x200F, "RLM"),
  (0x202A, "LRE"), (0x202B, "RLE"), (0x202C, "PDF"), (0x202D, "LRO"), (0x202E, "RLO"),
  (0x202F, "NNBSP"), (0x205F, "MMSP"), (0x2060, "WJ"), (0x2066, "LRI"), (0x2067, "RLI"),
  (0x2068, "FSI"), (0x2069, "PDI"), (0x2118, "WEIERSTRASS ELLIPTIC FUNCTION"),
  (0x2448, "MICR ON US SYMBOL"), (0x2449, "MICR DASH SYMBOL"),
  (0x2B7A, "LEFTWARDS TRIANGLE-HEADED ARROW WITH DOUBLE VERTICAL STROKE"),
  (0x2B7C, "RIGHTWARDS TRIANGLE-HEADED ARROW WITH DOUBLE VERTICAL STROKE"),
  (0xA015, "YI SYLLABLE ITERATION MARK"), (0xAA6E, "MYANMAR LETTER KHAMTI LLA"),
  (0xFE18, "PRESENTATION FORM FOR VERTICAL RIGHT WHITE LENTICULAR BRACKET"),
  (0xFEFF, "BYTE ORDER MARK,BOM,ZWNBSP"), (0x122D4, "CUNEIFORM SIGN NU11 TENU"),
  (0x122D5, "CUNEIFORM SIGN NU11 OVER NU11 BUR OVER BUR"),
  (0x16E56, "MEDEFAIDRIN CAPITAL LETTER H"), (0x16E57, "MEDEFAIDRIN CAPITAL LETTER NG"),
  (0x16E76, "MEDEFAIDRIN SMALL LETTER H"), (0x16E77, "MEDEFAIDRIN SMALL LETTER NG"),
  (0x1B001, "HENTAIGANA LETTER E-1"),
  (0x1D0C5, "BYZANTINE MUSICAL SYMBOL FTHORA SKLIRON CHROMA VASIS")]

/-- The number of the selector of variants that a short name in capitals stands for. -/
def selector? (name : Text) : Option Nat := do
  let digits ← Text.dropStart? "VS" name
  let n := Text.decimalValue digits
  if digits = Text.ofNat n && 1 ≤ n && n ≤ 256 then
    some (if n ≤ 16 then 0xFE00 + n - 1 else 0xE0100 + n - 17)
  else none

/-- The number of the code point that has a name in capitals beside its own. -/
def further? (name : Text) : Option Nat :=
  (furtherNames.find? fun (_, names) => (Text.splitOn ',' names).contains name).map Prod.fst

/-- The number of the code point with a listed name. -/
def listed? (name : Text) : Option Nat :=
  [alphabets, scripts, symbols, eastAsia, history, pictures].findSome? (find? name)

/-- The number of the code point with a name. -/
def numberOf? (name : Text) : Option Nat :=
  match Text.dropStart? "HANGUL SYLLABLE " name with
  | some sounds => syllable? sounds
  | none =>
    match Text.dropStart? "CJK UNIFIED IDEOGRAPH-" name with
    | some digits => ideograph? digits
    | none =>
      let name := name.map capital
      [number?, selector?, further?, listed?].findSome? fun find => find name

end UnicodeName

/-- The code point with a name. -/
def CodePoint.named? (name : Text) : Option CodePoint :=
  (UnicodeName.numberOf? name).map CodePoint.ofNat

end Decouple
