import Decouple.Console.Emoji.Names
import Decouple.Text.Blank
import Decouple.Text.Case
import Decouple.Text.Parts

/-!
# Emoji by name

A name between two colons stands for an emoji, in letters of either case.  The name may end in
`-emoji` or `-text` to ask for a picture or for a plain sign.  In the tables a name that ends in
`~` also comes with the five tones of skin.
-/

namespace Decouple

namespace Emoji

/-! ## Looking names up -/

/-- Whether one of the names of an entry fits; an empty entry has none. -/
def hasName (fits : Text → Bool) (entry : Text) : Bool :=
  !entry.isEmpty && (Text.splitOn ',' entry).any fits

/-- The emoji of one code point in a table with a name that fits. -/
def single? (fits : Text → Bool) (table : List (Nat × List String)) : Option Text :=
  table.findSome? fun (first, rows) =>
    let entries := rows.flatMap fun row : String => Text.splitOn ';' row
    (entries.findIdx? (hasName fits)).map fun i => [CodePoint.ofNat (first + i)]

/-- The emoji of several code points with a name that fits. -/
def sequence? (fits : Text → Bool) : Option Text :=
  (sequences.find? fun (_, names) => hasName fits names).map fun (codes, _) =>
    codes.map CodePoint.ofNat

/-- The emoji in any table with a name that fits. -/
def find? (fits : Text → Bool) : Option Text :=
  ([signs, pictures, faces].findSome? (single? fits)).or (sequence? fits)

/-- The flag of a country with a code of small letters: the code in regional letters. -/
def flagOf (code : Text) : Text := code.map fun c => CodePoint.ofNat (c.val - 97 + 0x1F1E6)

/-- The flag with a name. -/
def flag? (name : Text) : Option Text :=
  let country := (Text.dropStart? "flag_for_" name).getD name
  let codes := (countries.flatMap fun row : String => Text.splitOn ';' row).filter fun entry =>
    Text.afterFirst ':' entry = country
  let code := (codes.head?.map (Text.beforeFirst ':')).or
    ((furtherFlags.find? fun (_, names) => hasName (· = name) names).map
      fun (code, _) => Text.ofString code)
  code.map flagOf

/-- The tones of skin, each with its modifier. -/
def tones : List (Text × Nat) :=
  [("light", 0x1F3FB), ("medium-light", 0x1F3FC), ("medium", 0x1F3FD), ("medium-dark", 0x1F3FE),
    ("dark", 0x1F3FF)]

/-- An emoji with a tone of skin: the modifier takes the place of a selector after the first code
point. -/
def withTone (modifier : Nat) : Text → Text
  | [] => []
  | c :: rest =>
    c :: CodePoint.ofNat modifier ::
      (if rest.head? = some (CodePoint.ofNat 0xFE0F) then rest.tail else rest)

/-- The emoji with a name that ends in a tone of skin. -/
def toned? (name : Text) : Option Text :=
  tones.findSome? fun (tone, modifier) => do
    let base ← Text.dropEnd? ("_" ++ tone ++ "_skin_tone") name
    let emoji ← find? (· = base ++ "~")
    some (withTone modifier emoji)

/-- The emoji with a name in small letters. -/
def named? (name : Text) : Option Text :=
  (find? fun n => n = name || n = name ++ "~").or ((flag? name).or (toned? name))

/-! ## Names in a text -/

/-- The name at the start of a code and the selector that its end asks for. -/
def nameAndSelector (code : Text) : Text × Text :=
  match Text.dropEnd? "-emoji" code, Text.dropEnd? "-text" code with
  | some name, _ => (name, [CodePoint.ofNat 0xFE0F])
  | none, some name => (name, [CodePoint.ofNat 0xFE0E])
  | none, none => (code, [])

/-- What a code between colons stands for. -/
def ofCode (code : Text) : Text :=
  let (name, selector) := nameAndSelector code
  match named? (Text.lowerCase name) with
  | some emoji => emoji ++ selector
  | none => ":" ++ code ++ ":"

/-- The code that a text after a colon starts with: up to the next colon, without white space. -/
def code? (t : Text) : Option Text :=
  let code := t.takeWhile fun c : CodePoint => !c.isBlank && c ≠ ':'
  if (t.drop code.length).head? = some (CodePoint.ofChar ':') then some code else none

/-- A text with emoji for their codes. -/
def replaced (t : Text) : Text :=
  match t with
  | [] => []
  | c :: rest =>
    if c = ':' then
      match code? rest with
      | some code => ofCode code ++ replaced (rest.drop (code.length + 1))
      | none => c :: replaced rest
    else c :: replaced rest
  termination_by t.length
  decreasing_by all_goals simp only [List.length_drop, List.length_cons]; omega

/-- A text without colons has no codes. -/
theorem replaced_eq_self {t : Text} (h : CodePoint.ofChar ':' ∉ t) : replaced t = t := by
  induction t with
  | nil => rw [replaced]
  | cons c rest ih =>
    rw [List.mem_cons, not_or] at h
    rw [replaced, if_neg (Ne.symm h.1), ih h.2]

end Emoji

end Decouple
