import Decouple.Console.Emoji
import Decouple.Number.Reading
import Decouple.Text.Blank
import Decouple.Text.Case
import Decouple.Text.Numeral
import Decouple.Text.Parts

/-!
# Styled text

A text for the console may hold tags: `[bold]` opens a style, `[/bold]` closes the last one opened
with that effect and `[/]` closes the last one.  A bracket starts a tag when a small letter, `#`,
`/` or `@` follows it and a closing bracket comes before any other opening one.  A backslash takes
that meaning away.  Where no styles can be shown, tags are left out; a tag that closes nothing is
an error all the same.  Names of emoji are replaced within each stretch of text between tags.
-/

namespace Decouple

/-!
## Styles of the console

A style is written in words: effects, each with an optional `not` before it, a color, a color
after `on` for the ground, and an address after `link`.  Styles that do the same have the same
normal form.  A text that is no style is a name of its own, whatever its case.
-/

/-!
## Colors

The ways to name a color: by a word, by six hexadecimal digits, by its number in a palette of 256,
or by three shares up to 255.
-/

namespace Color

/-- The words for colors, the shades of grey aside. -/
def words : List String := [
  "aquamarine1 aquamarine3 black blue blue1 blue3 blue_violet bright_black bright_blue",
  "bright_cyan bright_green bright_magenta bright_red bright_white bright_yellow cadet_blue",
  "chartreuse1 chartreuse2 chartreuse3 chartreuse4 cornflower_blue cornsilk1 cyan cyan1 cyan2",
  "cyan3 dark_blue dark_cyan dark_goldenrod dark_green dark_khaki dark_magenta dark_olive_green1",
  "dark_olive_green2 dark_olive_green3 dark_orange dark_orange3 dark_red dark_sea_green",
  "dark_sea_green1 dark_sea_green2 dark_sea_green3 dark_sea_green4 dark_slate_gray1",
  "dark_slate_gray2 dark_slate_gray3 dark_turquoise dark_violet deep_pink1 deep_pink2 deep_pink3",
  "deep_pink4 deep_sky_blue1 deep_sky_blue2 deep_sky_blue3 deep_sky_blue4 dodger_blue1",
  "dodger_blue2 dodger_blue3 gold1 gold3 green green1 green3 green4 green_yellow honeydew2",
  "hot_pink hot_pink2 hot_pink3 indian_red indian_red1 khaki1 khaki3 light_coral light_cyan1",
  "light_cyan3 light_goldenrod1 light_goldenrod2 light_goldenrod3 light_green light_pink1",
  "light_pink3 light_pink4 light_salmon1 light_salmon3 light_sea_green light_sky_blue1",
  "light_sky_blue3 light_slate_blue light_slate_gray light_slate_grey light_steel_blue",
  "light_steel_blue1 light_steel_blue3 light_yellow3 magenta magenta1 magenta2 magenta3",
  "medium_orchid medium_orchid1 medium_orchid3 medium_purple medium_purple1 medium_purple2",
  "medium_purple3 medium_purple4 medium_spring_green medium_turquoise medium_violet_red",
  "misty_rose1 misty_rose3 navajo_white1 navajo_white3 navy_blue orange1 orange3 orange4",
  "orange_red1 orchid orchid1 orchid2 pale_green1 pale_green3 pale_turquoise1 pale_turquoise4",
  "pale_violet_red1 pink1 pink3 plum1 plum2 plum3 plum4 purple purple3 purple4 red red1 red3",
  "rosy_brown royal_blue1 salmon1 sandy_brown sea_green1 sea_green2 sea_green3 sky_blue1",
  "sky_blue2 sky_blue3 slate_blue1 slate_blue3 spring_green1 spring_green2 spring_green3",
  "spring_green4 steel_blue steel_blue1 steel_blue3 tan thistle1 thistle3 turquoise2 turquoise4",
  "violet wheat1 wheat4 white yellow yellow1 yellow2 yellow3 yellow4"]

/-- The numbers of the shades of grey. -/
def greys : List Nat :=
  [0, 3, 7, 11, 15, 19, 23, 27, 30, 35, 37, 39, 42, 46, 50, 53, 54, 58, 62, 63, 66, 69, 70, 74, 78,
    82, 84, 85, 89, 93, 100]

/-- Whether a text is the word for a shade of grey. -/
def isGrey (t : Text) : Bool :=
  ((Text.dropStart? "grey" t).or (Text.dropStart? "gray" t)).any fun number =>
    greys.any fun n => Text.ofNat n = number

/-- Whether a text is a word for a color. -/
def isWord (t : Text) : Bool :=
  t = "default" || isGrey t || words.any fun row : String => (Text.splitOn ' ' row).contains t

/-- Whether a text is a sharp and six hexadecimal digits, letters in lower case. -/
def isHexadecimal (t : Text) : Bool :=
  (Text.dropStart? "#" t).any fun digits =>
    digits.length = 6 && digits.all fun c => c.isDigit || (97 ≤ c.val && c.val ≤ 102)

/-- What stands in the parentheses after a name. -/
def argument? (name t : Text) : Option Text :=
  (Text.dropStart? (name ++ "(") t).bind (Text.dropEnd? ")")

/-- Whether a text is a number of the palette. -/
def isNumbered (t : Text) : Bool :=
  (argument? "color" t).any fun digits =>
    !digits.isEmpty && digits.length ≤ 3 && digits.all CodePoint.isDigit &&
      Text.decimalValue digits ≤ 255

/-- Whether a text is a share of a color: decimal digits of any script. -/
def isShare (t : Text) : Bool :=
  t.all (fun c => (CodePoint.decimalValue? c).isSome) &&
    match Reading.integer t with
    | .ok n => n ≤ 255
    | .error _ => false

/-- Whether a text is three shares of a color. -/
def isMixed (t : Text) : Bool :=
  (argument? "rgb" t).any fun shares =>
    let shares := Text.splitOn ',' shares
    shares.length = 3 && shares.all isShare

/-- Whether a text in lower case names a color. -/
def isName (t : Text) : Bool := isWord t || isHexadecimal t || isNumbered t || isMixed t

end Color

/-! ## Styles -/

/-- What a style asks for. -/
structure Style where
  /-- Effects that are on or off, the last word first. -/
  effects : List (Text × Bool) := []
  color : Option Text := none
  ground : Option Text := none
  link : Option Text := none

namespace Style

/-- The effects in the order of the normal form, each with its short names. -/
def effectNames : List (Text × List Text) := [
  ("bold", ["b"]), ("dim", ["d"]), ("italic", ["i"]), ("underline", ["u"]), ("blink", []),
  ("blink2", []), ("reverse", ["r"]), ("conceal", ["c"]), ("strike", ["s"]),
  ("underline2", ["uu"]), ("frame", []), ("encircle", []), ("overline", ["o"])]

/-- The effect that a word stands for. -/
def effect? (word : Text) : Option Text :=
  (effectNames.find? fun (name, short) => name = word || short.contains word).map Prod.fst

/-- The style with an effect on or off. -/
def set (s : Style) (name : Text) (on : Bool) : Style :=
  { s with effects := (name, on) :: s.effects }

/-- The style with what some words ask for; nothing if they are no style. -/
def withWords? (s : Style) : List Text → Option Style
  | [] => some s
  | word :: rest =>
    let small := Text.lowerCase word
    if small = "on" then
      match rest with
      | [] => none
      | color :: rest =>
        let color := Text.lowerCase color
        if Color.isName color then withWords? { s with ground := some color } rest else none
    else if small = "not" then
      match rest with
      | [] => none
      | word :: rest =>
        match effect? word with
        | some name => withWords? (s.set name false) rest
        | none => none
    else if small = "link" then
      match rest with
      | [] => none
      | address :: rest => withWords? { s with link := some address } rest
    else
      match effect? small with
      | some name => withWords? (s.set name true) rest
      | none => if Color.isName small then withWords? { s with color := some small } rest else none

/-- The words of a text. -/
def words (t : Text) : List Text :=
  (Text.splitWhere CodePoint.isBlank t).filter fun word => !word.isEmpty

/-- The words of the normal form. -/
def toWords (s : Style) : List Text :=
  let effects := effectNames.filterMap fun (name, _) =>
    (s.effects.lookup name).map fun on => if on then name else "not " ++ name
  effects ++ s.color.toList ++ (s.ground.map fun color : Text => "on " ++ color).toList ++
    (s.link.map fun address : Text => "link " ++ address).toList

/-- The normal form of a style that is not blank, or the name of what is no style. -/
def normal (t : Text) : Text :=
  match withWords? {} (words t) with
  | some s => Text.join " " s.toWords
  | none => Text.lowerCase (Text.trim t)

end Style

/-! ## Tags -/

/-- What is wrong with the tags of a text. -/
inductive StyleFault where
  /-- A tag closes a style that is not open. -/
  | unmatched (tag : Text) (position : Nat)
  /-- A tag closes a style when none is open. -/
  | nothingToClose (position : Nat)
  deriving DecidableEq

/-- A fault in words. -/
def StyleFault.message : StyleFault → Text
  | unmatched tag position =>
    "closing tag '[" ++ tag ++ "]' at position " ++ Text.ofNat position ++
      " doesn't match any open tag"
  | nothingToClose position =>
    "closing tag '[/]' at position " ++ Text.ofNat position ++ " has nothing to close"

namespace Styled

/-- A piece of a styled text. -/
inductive Piece where
  | plain (t : Text)
  /-- Backslashes, or a tag whose meaning they take away. -/
  | inert (t : Text)
  /-- What stands between the brackets of a tag, and where the tag starts. -/
  | tag (position : Nat) (body : Text)
  deriving DecidableEq

/-- Whether a tag may start with a code point. -/
def startsTag (c : CodePoint) : Bool := c.isLower || CodePoint.isIn "#/@" c

/-- What stands between the brackets of the tag that a text starts with. -/
def tag? : Text → Option Text
  | bracket :: c :: rest =>
    let body := c :: rest.takeWhile (CodePoint.isNotIn "[]")
    if bracket = '[' && startsTag c && Text.startsWith (rest.dropWhile (CodePoint.isNotIn "[]")) "]"
    then some body else none
  | _ => none

/-- The backslashes that a text starts with. -/
def slashes (t : Text) : Nat := (t.takeWhile (CodePoint.is '\\')).length

/-- So many backslashes. -/
def backslashes (n : Nat) : Text := List.replicate n '\\'

/-- What backslashes before a tag are: half as many, and the tag or its text. -/
def escaped (position count : Nat) (body : Text) : List Piece :=
  Piece.inert (backslashes (count / 2)) ::
    [if count % 2 = 0 then .tag (position + count) body else .inert ("[" ++ body ++ "]")]

/-- The text of backslashes and the code point after them when no tag follows: one of them goes
before a bracket. -/
def unescaped (count : Nat) (next : CodePoint) : Text :=
  backslashes (if next = '[' then count - 1 else count) ++ [next]

/-- A text before some pieces; it is of one piece with plain text. -/
def withText (t : Text) : List Piece → List Piece
  | .plain u :: rest => .plain (t ++ u) :: rest
  | rest => .plain t :: rest

/-- The pieces of a text that starts at a position. -/
def piecesFrom (position : Nat) (t : Text) : List Piece :=
  match t with
  | [] => []
  | c :: rest =>
    let count := slashes (c :: rest)
    match tag? ((c :: rest).drop count) with
    | some body =>
      let length := count + body.length + 2
      escaped position count body ++ piecesFrom (position + length) (rest.drop (length - 1))
    | none =>
      match (c :: rest).drop count with
      | [] => [.plain (c :: rest)]
      | next :: _ =>
        withText (unescaped count next) (piecesFrom (position + count + 1) (rest.drop count))
  termination_by t.length
  decreasing_by all_goals simp only [List.length_drop, List.length_cons]; omega

/-- The pieces of a text. -/
def pieces (t : Text) : List Piece := piecesFrom 0 t

/-- The styles that stay open when the last one of a name is closed; the last opened is first. -/
def close? (name : Text) : List Text → Option (List Text)
  | [] => none
  | style :: rest => if style = name then some rest else (close? name rest).map (style :: ·)

/-- The styles that are open after a tag. -/
def afterTag (position : Nat) (body : Text) (styles : List Text) :
    Except StyleFault (List Text) :=
  match Text.dropStart? "/" (Text.beforeFirst '=' body) with
  | none => .ok (Style.normal (Text.beforeFirst '=' body) :: styles)
  | some name =>
    if Text.isBlank name then
      match styles with
      | [] => .error (.nothingToClose position)
      | _ :: rest => .ok rest
    else
      match close? (Style.normal name) styles with
      | none => .error (.unmatched body position)
      | some rest => .ok rest

/-- The text of pieces between which some styles are open. -/
def plainOf (styles : List Text) : List Piece → Except StyleFault Text
  | [] => .ok []
  | .plain t :: rest | .inert t :: rest => (plainOf styles rest).map (Emoji.replaced t ++ ·)
  | .tag position body :: rest =>
    match afterTag position body styles with
    | .error e => .error e
    | .ok styles => plainOf styles rest

/-- The text without its tags. -/
def plain (t : Text) : Except StyleFault Text := plainOf [] (pieces t)

end Styled

end Decouple
