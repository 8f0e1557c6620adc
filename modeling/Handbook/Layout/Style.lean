import Handbook.Error
import Handbook.Text.Blank
import Handbook.Text.Column
import Handbook.Text.TitleCase
import Handbook.Text.WordCharacter

/-!
# Styles

A style describes a look in words: what letters look like, a colour for them, and
one for their ground. It changes nothing of what is written, and words that
describe no look are as good as none. A colour mixed of three parts is the
exception: a part that is left out cannot be read. Nor can a style be looked up
that is no text.
-/

namespace Handbook.Style

/-- The words for the look of letters. -/
def looks : List Text :=
  Text.words <| String.toList <|
    "dim d bold b italic i underline u blink blink2 reverse r conceal c strike s underline2 uu " ++
    "frame encircle overline o"

/-- The shades of grey that have names. -/
def greys : List Nat :=
  [0, 3, 7, 11, 15, 19, 23, 27, 30, 35, 37, 39, 42, 46, 50, 53, 54, 58, 62, 63, 66, 69, 70,
    74, 78, 82, 84, 85, 89, 93, 100]

/-- The names of colours. -/
def colorNames : List Text :=
  (Text.words <| String.toList <|
    "black red green yellow blue magenta cyan white bright_black bright_red bright_green " ++
    "bright_yellow bright_blue bright_magenta bright_cyan bright_white navy_blue dark_blue " ++
    "blue3 blue1 dark_green deep_sky_blue4 dodger_blue3 dodger_blue2 green4 spring_green4 " ++
    "turquoise4 deep_sky_blue3 dodger_blue1 green3 spring_green3 dark_cyan light_sea_green " ++
    "deep_sky_blue2 deep_sky_blue1 spring_green2 cyan3 dark_turquoise turquoise2 green1 " ++
    "spring_green1 medium_spring_green cyan2 cyan1 dark_red deep_pink4 purple4 purple3 " ++
    "blue_violet orange4 medium_purple4 slate_blue3 royal_blue1 chartreuse4 dark_sea_green4 " ++
    "pale_turquoise4 steel_blue steel_blue3 cornflower_blue chartreuse3 cadet_blue sky_blue3 " ++
    "steel_blue1 pale_green3 sea_green3 aquamarine3 medium_turquoise chartreuse2 sea_green2 " ++
    "sea_green1 aquamarine1 dark_slate_gray2 dark_magenta dark_violet purple light_pink4 " ++
    "plum4 medium_purple3 slate_blue1 yellow4 wheat4 light_slate_grey light_slate_gray " ++
    "medium_purple light_slate_blue dark_olive_green3 dark_sea_green light_sky_blue3 " ++
    "sky_blue2 dark_sea_green3 dark_slate_gray3 sky_blue1 chartreuse1 light_green pale_green1 " ++
    "dark_slate_gray1 red3 medium_violet_red magenta3 dark_orange3 indian_red hot_pink3 " ++
    "medium_orchid3 medium_orchid medium_purple2 dark_goldenrod light_salmon3 rosy_brown " ++
    "medium_purple1 gold3 dark_khaki navajo_white3 light_steel_blue3 light_steel_blue yellow3 " ++
    "dark_sea_green2 light_cyan3 light_sky_blue1 green_yellow dark_olive_green2 " ++
    "dark_sea_green1 pale_turquoise1 deep_pink3 magenta2 hot_pink2 orchid medium_orchid1 " ++
    "orange3 light_pink3 pink3 plum3 violet light_goldenrod3 tan misty_rose3 thistle3 plum2 " ++
    "khaki3 light_goldenrod2 light_yellow3 light_steel_blue1 yellow2 dark_olive_green1 " ++
    "honeydew2 light_cyan1 red1 deep_pink2 deep_pink1 magenta1 orange_red1 indian_red1 " ++
    "hot_pink dark_orange salmon1 light_coral pale_violet_red1 orchid2 orchid1 orange1 " ++
    "sandy_brown light_salmon1 light_pink1 pink1 plum1 gold1 navajo_white1 misty_rose1 " ++
    "thistle1 yellow1 light_goldenrod1 khaki1 wheat1 cornsilk1") ++
  greys.flatMap fun shade => ["grey" ++ Text.ofNat shade, "gray" ++ Text.ofNat shade]

/-- The number of digits that a part of a colour may have. -/
def longestPart : Nat := 4300

/-- The number that a part of a colour is written as. -/
def partOf (digits : Text) : Except Error Nat :=
  if digits.isEmpty then .error .digitsMissing
  else if longestPart < digits.length then .error (.tooManyDigits digits.length)
  else .ok (digits.foldl (fun number digit => 10 * number + Text.digitValue digit) 0)

/-- Whether a number is a part of a colour. -/
def isPart (number : Nat) : Bool :=
  number ≤ 255

/-- What stands in brackets after a name, where a word is nothing else. -/
def bracketed? (name word : Text) : Option Text :=
  let inner := (word.drop name.length).dropLast
  if word == name ++ inner ++ [')'] && !inner.isEmpty then some inner else none

/-- Whether three parts make a colour. -/
def isMixed (inner : Text) : Except Error Bool :=
  match Text.pieces ',' inner with
  | [red, green, blue] => do
      let parts ← [red, green, blue].mapM partOf
      return parts.all isPart
  | _ => .ok false

/-- Whether a character is a hexadecimal digit in lower case. -/
def isHexadecimal (character : Char) : Bool :=
  character.isDigit || ('a' ≤ character && character ≤ 'f')

/-- Whether a word in lower case is six hexadecimal digits after a hash. -/
def isSixDigits : Text → Bool
  | '#' :: digits => digits.length = 6 && digits.all isHexadecimal
  | _ => false

/-- Whether a word in lower case is the number of a colour. -/
def isNumbered (word : Text) : Bool :=
  match bracketed? "color(" word with
  | some digits =>
      digits.length ≤ 3 && digits.all Char.isDigit &&
        isPart (digits.foldl (fun number digit => 10 * number + Text.digitValue digit) 0)
  | none => false

/-- Whether a word in lower case is a colour: a name, a number, or three parts. -/
def isColor (word : Text) : Except Error Bool :=
  match bracketed? "rgb(" word with
  | some inner =>
      if inner.all fun character => Text.isDecimalDigit character || character = ',' then
        isMixed inner
      else .ok false
  | none =>
      .ok (word == "default".toList || colorNames.contains word || isSixDigits word ||
        isNumbered word)

/-- The reading of the words of a style, up to the first that describes no look. -/
def read : List Text → Except Error Unit
  | [] => .ok ()
  | [last] => do
      let _ ← isColor (Text.lowerCase last)
      return ()
  | first :: second :: rest =>
      let word := Text.lowerCase first
      if word = "on".toList then do
        if ← isColor (Text.lowerCase second) then read rest
      else if word = "not".toList then
        if looks.contains second then read rest else .ok ()
      else if word = "link".toList then read rest
      else if looks.contains word then read (second :: rest)
      else do
        if ← isColor word then read (second :: rest)

/-- Whether a byte is blank. -/
def isBlankByte (byte : UInt8) : Bool :=
  byte == 0x20 || (0x09 ≤ byte && byte ≤ 0x0D)

/-- The words of a description, between blanks of any kind. -/
def wordsOf (description : Text) : List Text :=
  Text.words (description.map fun character => if Text.isBlank character then ' ' else character)

/-- The look-up of a style when a text is written. -/
def lookUp : Value → Except Error Unit
  | .str description => read (wordsOf description)
  | .bytes words => if words.all isBlankByte then .ok () else .error .patternNotForBytes
  | other =>
      match other.unhashableKind? with
      | some kind => .error (.unhashable kind)
      | none => .error (.noAttribute other.kind "strip")

end Handbook.Style
