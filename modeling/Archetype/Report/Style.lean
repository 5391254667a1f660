import Archetype.Text.Blank
import Archetype.Text.Case
import Archetype.Text.Ranges
import Archetype.Text.Split
import Archetype.Text.Wrap

/-!
# Styles

A style is named by words: marks such as `bold`, which `not` takes away, a colour, a colour behind
the text after `on`, and an address after `link`. Styles that say the same in other words have one
normal form; words that name no style are their own normal form, but for capitals and the white
space around them.

* `isColor`        is a word a colour?
* `readStyle`      the style that words name;
* `normalStyle`    the normal form of a style.
-/

namespace Archetype.Report

/-- the names of colours, besides those that are given by numbers -/
def colorNames : List String := Text.bareWords
  "black red green yellow blue magenta cyan white bright_black bright_red bright_green bright_yellow
  bright_blue bright_magenta bright_cyan bright_white grey0 gray0 navy_blue dark_blue blue3 blue1
  dark_green deep_sky_blue4 dodger_blue3 dodger_blue2 green4 spring_green4 turquoise4 deep_sky_blue3
  dodger_blue1 green3 spring_green3 dark_cyan light_sea_green deep_sky_blue2 deep_sky_blue1
  spring_green2 cyan3 dark_turquoise turquoise2 green1 spring_green1 medium_spring_green cyan2 cyan1
  dark_red deep_pink4 purple4 purple3 blue_violet orange4 grey37 gray37 medium_purple4 slate_blue3
  royal_blue1 chartreuse4 dark_sea_green4 pale_turquoise4 steel_blue steel_blue3 cornflower_blue
  chartreuse3 cadet_blue sky_blue3 steel_blue1 pale_green3 sea_green3 aquamarine3 medium_turquoise
  chartreuse2 sea_green2 sea_green1 aquamarine1 dark_slate_gray2 dark_magenta dark_violet purple
  light_pink4 plum4 medium_purple3 slate_blue1 yellow4 wheat4 grey53 gray53 light_slate_grey
  light_slate_gray medium_purple light_slate_blue dark_olive_green3 dark_sea_green light_sky_blue3
  sky_blue2 dark_sea_green3 dark_slate_gray3 sky_blue1 chartreuse1 light_green pale_green1
  dark_slate_gray1 red3 medium_violet_red magenta3 dark_orange3 indian_red hot_pink3 medium_orchid3
  medium_orchid medium_purple2 dark_goldenrod light_salmon3 rosy_brown grey63 gray63 medium_purple1
  gold3 dark_khaki navajo_white3 grey69 gray69 light_steel_blue3 light_steel_blue yellow3
  dark_sea_green2 light_cyan3 light_sky_blue1 green_yellow dark_olive_green2 dark_sea_green1
  pale_turquoise1 deep_pink3 magenta2 hot_pink2 orchid medium_orchid1 orange3 light_pink3 pink3
  plum3 violet light_goldenrod3 tan misty_rose3 thistle3 plum2 khaki3 light_goldenrod2 light_yellow3
  grey84 gray84 light_steel_blue1 yellow2 dark_olive_green1 honeydew2 light_cyan1 red1 deep_pink2
  deep_pink1 magenta1 orange_red1 indian_red1 hot_pink dark_orange salmon1 light_coral
  pale_violet_red1 orchid2 orchid1 orange1 sandy_brown light_salmon1 light_pink1 pink1 plum1 gold1
  navajo_white1 misty_rose1 thistle1 yellow1 light_goldenrod1 khaki1 wheat1 cornsilk1 grey100
  gray100 grey3 gray3 grey7 gray7 grey11 gray11 grey15 gray15 grey19 gray19 grey23 gray23 grey27
  gray27 grey30 gray30 grey35 gray35 grey39 gray39 grey42 gray42 grey46 gray46 grey50 gray50 grey54
  gray54 grey58 gray58 grey62 gray62 grey66 gray66 grey70 gray70 grey74 gray74 grey78 gray78 grey82
  gray82 grey85 gray85 grey89 gray89 grey93 gray93"

/-- why words name no style -/
inductive StyleError where
  /-- there is a word that is neither mark nor colour, or a word is missing -/
  | unknown
  /-- a colour has nothing where a number should be -/
  | noNumber
  deriving DecidableEq, Repr

/-- the number of decimal digits, if there is nothing else -/
def decimalDigits? (cs : List Char) : Option Nat :=
  if cs.all Char.isDigit && !cs.isEmpty then some (cs.foldl (fun n c => 10 * n + (c.toNat - 48)) 0)
  else none

/-- the text between `label` and a closing bracket at the end -/
def bracketed? (label : String) (cs : List Char) : Option (List Char) :=
  if label.toList.isPrefixOf cs && cs.getLast? == some ')' then
    some ((cs.drop label.length).dropLast)
  else none

/-- is it one of three numbers of a colour? -/
def isComponent (cs : List Char) : Except StyleError Bool :=
  if cs.isEmpty then .error .noNumber else .ok ((decimalDigits? cs).any (· ≤ 255))

/-- is a word of small letters a colour? It is one by name, by six hexadecimal digits, by its
number, or by three numbers. -/
def isColor (word : String) : Except StyleError Bool :=
  let cs := word.toList
  if word = "default" || colorNames.contains word then .ok true
  else
    match cs, bracketed? "color(" cs, bracketed? "rgb(" cs with
    | '#' :: digits, _, _ =>
      .ok (digits.length == 6 && digits.all fun c => (Text.hexDigit? c).isSome)
    | _, some digits, _ => .ok (digits.length ≤ 3 && (decimalDigits? digits).any (· ≤ 255))
    | _, _, some numbers =>
      match Text.splitChars ',' numbers with
      | [red, green, blue] =>
        if numbers.all fun c => c.isDigit || c == ',' then
          return (← isComponent red) && (← isComponent green) && (← isComponent blue)
        else .ok false
      | _ => .ok false
    | _, _, _ => .ok false

/-- the marks of a style in the order of the normal form, and short names of them -/
def styleMarks : List (String × String) :=
  [("bold", "b"), ("dim", "d"), ("italic", "i"), ("underline", "u"), ("blink", ""), ("blink2", ""),
    ("reverse", "r"), ("conceal", "c"), ("strike", "s"), ("underline2", "uu"), ("frame", ""),
    ("encircle", ""), ("overline", "o")]

/-- the mark with a name -/
def markNamed? (word : String) : Option String :=
  (styleMarks.find? fun (name, short) => name == word || (short == word && short != "")).map
    Prod.fst

/-- what words say about a text -/
structure Style where
  /-- marks that are set or taken away -/
  marks : List (String × Bool)
  color : Option String
  background : Option String
  link : Option String

namespace Style

/-- nothing is said -/
def plain : Style := ⟨[], none, none, none⟩

/-- the words of the normal form -/
def words (s : Style) : List String :=
  (styleMarks.filterMap fun (name, _) =>
      (s.marks.lookup name).map fun isSet => if isSet then name else "not " ++ name)
    ++ s.color.toList
    ++ ((s.background.map fun c => ["on", c]).getD [])
    ++ ((s.link.map fun l => ["link", l]).getD [])

/-- the normal form -/
def text (s : Style) : String := if s.words.isEmpty then "none" else Text.joinWith " " s.words

end Style

/-- a colour in small letters -/
def readColor (word : String) : Except StyleError String := do
  let color := Text.lower word
  if ← isColor color then return color else throw .unknown

/-- reads more words of a style; of two words about the same thing the later counts -/
def readStyle (s : Style) : List String → Except StyleError Style
  | [] => .ok s
  | word :: rest =>
    match Text.lower word, rest with
    | "on", [] | "not", [] | "link", [] => .error .unknown
    | "on", next :: rest => do readStyle { s with background := some (← readColor next) } rest
    | "not", next :: rest =>
      match markNamed? next with
      | none => .error .unknown
      | some mark => readStyle { s with marks := (mark, false) :: s.marks } rest
    | "link", next :: rest => readStyle { s with link := some next } rest
    | small, rest =>
      match markNamed? small with
      | some mark => readStyle { s with marks := (mark, true) :: s.marks } rest
      | none => do readStyle { s with color := some (← readColor word) } rest

/-- the normal form of a style -/
def normalStyle (definition : String) : Except StyleError String :=
  if definition = "" || Text.strip definition = "none" then .ok "none"
  else
    match readStyle .plain (Text.bareWords definition) with
    | .ok s => .ok s.text
    | .error .unknown => .ok (Text.lower (Text.strip definition))
    | .error .noNumber => .error .noNumber

end Archetype.Report
