import AssetAudit.Text.Basic
import AssetAudit.Unicode.Case
import AssetAudit.Unicode.Words

/-!
# Names of styles

A style is named by its properties, its color and the color behind it, in any order. Styles have no
effect on the printed text; but a mark that ends one has to name the style that the mark at its
beginning names, so two names are compared in a normal form.
-/
namespace AssetAudit.Console

/-- Properties with the words that name them, in the order of the normal form. -/
def properties : List (String × List String) := [
  ("bold", ["b"]), ("dim", ["d"]), ("italic", ["i"]), ("underline", ["u"]), ("blink", []),
  ("blink2", []), ("reverse", ["r"]), ("conceal", ["c"]), ("strike", ["s"]),
  ("underline2", ["uu"]), ("frame", []), ("encircle", []), ("overline", ["o"])]

def property? (word : Text) : Option Text :=
  (properties.find? fun p => (p.1 :: p.2).any fun w => w.toList == word).map (·.1.toList)

def colorNames : String :=
  "black red green yellow blue magenta cyan white bright_black bright_red bright_green
bright_yellow bright_blue bright_magenta bright_cyan bright_white grey0 gray0 navy_blue
dark_blue blue3 blue1 dark_green deep_sky_blue4 dodger_blue3 dodger_blue2 green4
spring_green4 turquoise4 deep_sky_blue3 dodger_blue1 green3 spring_green3 dark_cyan
light_sea_green deep_sky_blue2 deep_sky_blue1 spring_green2 cyan3 dark_turquoise
turquoise2 green1 spring_green1 medium_spring_green cyan2 cyan1 dark_red deep_pink4
purple4 purple3 blue_violet orange4 grey37 gray37 medium_purple4 slate_blue3 royal_blue1
chartreuse4 dark_sea_green4 pale_turquoise4 steel_blue steel_blue3 cornflower_blue
chartreuse3 cadet_blue sky_blue3 steel_blue1 pale_green3 sea_green3 aquamarine3
medium_turquoise chartreuse2 sea_green2 sea_green1 aquamarine1 dark_slate_gray2
dark_magenta dark_violet purple light_pink4 plum4 medium_purple3 slate_blue1 yellow4
wheat4 grey53 gray53 light_slate_grey light_slate_gray medium_purple light_slate_blue
dark_olive_green3 dark_sea_green light_sky_blue3 sky_blue2 dark_sea_green3
dark_slate_gray3 sky_blue1 chartreuse1 light_green pale_green1 dark_slate_gray1 red3
medium_violet_red magenta3 dark_orange3 indian_red hot_pink3 medium_orchid3 medium_orchid
medium_purple2 dark_goldenrod light_salmon3 rosy_brown grey63 gray63 medium_purple1 gold3
dark_khaki navajo_white3 grey69 gray69 light_steel_blue3 light_steel_blue yellow3
dark_sea_green2 light_cyan3 light_sky_blue1 green_yellow dark_olive_green2
dark_sea_green1 pale_turquoise1 deep_pink3 magenta2 hot_pink2 orchid medium_orchid1
orange3 light_pink3 pink3 plum3 violet light_goldenrod3 tan misty_rose3 thistle3 plum2
khaki3 light_goldenrod2 light_yellow3 grey84 gray84 light_steel_blue1 yellow2
dark_olive_green1 honeydew2 light_cyan1 red1 deep_pink2 deep_pink1 magenta1 orange_red1
indian_red1 hot_pink dark_orange salmon1 light_coral pale_violet_red1 orchid2 orchid1
orange1 sandy_brown light_salmon1 light_pink1 pink1 plum1 gold1 navajo_white1 misty_rose1
thistle1 yellow1 light_goldenrod1 khaki1 wheat1 cornsilk1 grey100 gray100 grey3 gray3
grey7 gray7 grey11 gray11 grey15 gray15 grey19 gray19 grey23 gray23 grey27 gray27 grey30
gray30 grey35 gray35 grey39 gray39 grey42 gray42 grey46 gray46 grey50 gray50 grey54
gray54 grey58 gray58 grey62 gray62 grey66 gray66 grey70 gray70 grey74 gray74 grey78
gray78 grey82 gray82 grey85 gray85 grey89 gray89 grey93 gray93"

def knownColors : List Text :=
  Text.words colorNames.toList

def isHexDigit (c : Char) : Bool :=
  ('0' ≤ c && c ≤ '9') || ('a' ≤ c && c ≤ 'f')

def number? (digits : Text) : Option Nat :=
  if digits.isEmpty then none
  else digits.foldlM (fun n c => (Unicode.digitValue? c.toNat).map (n * 10 + ·)) 0

def argument? (name : String) (word : Text) : Option Text :=
  if word.startsWith (name.toList ++ ['(']) && word.endsWith [')'] then
    some ((word.drop (name.length + 1)).dropLast)
  else none

def isOctet (digits : Text) : Bool :=
  (number? digits).any (· ≤ 255)

/-- A color is a name, a number or a mixture of red, green and blue. -/
def isColor (word : Text) : Bool :=
  word == "default".toList || knownColors.contains word ||
    (match word with
      | '#' :: digits => digits.length == 6 && digits.all isHexDigit
      | _ => false) ||
    (argument? "color" word).any (fun n => n.length ≤ 3 && isOctet n) ||
    (argument? "rgb" word).any fun parts =>
      (Text.splitOn ',' parts).length == 3 && (Text.splitOn ',' parts).all isOctet

structure Style where
  properties : List (Text × Bool) := []
  color : Option Text := none
  ground : Option Text := none
  link : Option Text := none

def Style.addWord? (style : Style) (word : Text) : Option Style :=
  match property? word with
  | some p => some { style with properties := (p, true) :: style.properties }
  | none => if isColor word then some { style with color := some word } else none

def Style.ofWords? (style : Style) : List Text → Option Style
  | [] => some style
  | [word] => style.addWord? (Unicode.lower word)
  | first :: second :: rest =>
    let word := Unicode.lower first
    if word = "on".toList then
      if isColor (Unicode.lower second) then
        ofWords? { style with ground := some (Unicode.lower second) } rest
      else none
    else if word = "not".toList then
      (property? second).bind fun p =>
        ofWords? { style with properties := (p, false) :: style.properties } rest
    else if word = "link".toList then ofWords? { style with link := some second } rest
    else (style.addWord? word).bind fun style => ofWords? style (second :: rest)
termination_by words => words.length

def Style.propertyText (style : Style) (name : Text) : List Text :=
  match style.properties.find? (·.1 == name) with
  | some (_, true) => [name]
  | some (_, false) => ["not ".toList ++ name]
  | none => []

def Style.text (style : Style) : Text :=
  let parts := Console.properties.flatMap (fun p => style.propertyText p.1.toList) ++
    style.color.toList ++ (style.ground.map fun c => "on ".toList ++ c).toList ++
    (style.link.map fun l => "link ".toList ++ l).toList
  if parts.isEmpty then "none".toList else Text.join [' '] parts

/-- The normal form of a name; a name without a meaning is only trimmed and put in small letters. -/
def styleName (name : Text) : Text :=
  match Style.ofWords? {} (if name.trim = "none".toList then [] else Text.words name) with
  | some style => style.text
  | none => Unicode.lower name.trim

end AssetAudit.Console
