import ScriptVet.Text.Blank
import ScriptVet.Text.Case
import ScriptVet.Text.Digit
import ScriptVet.Text.Hex
import ScriptVet.Text.Search

/-!
# Styles

A style is defined by words: the marks it sets, a color, a color for the ground after the word `on`,
the word `not` before a mark that it takes away, and the target of a link after the word `link`.
Different words may define the same style, so each style has one normal form.
-/

namespace ScriptVet.Console

/-- What a style may do to letters. -/
inductive Mark where
  | bold
  | dim
  | italic
  | underline
  | blink
  | blinkFast
  | reverse
  | conceal
  | strike
  | underlineTwice
  | frame
  | encircle
  | overline
  deriving Repr, DecidableEq

namespace Mark

/-- All marks, in the order in which they are listed. -/
def all : List Mark := [
  bold, dim, italic, underline, blink, blinkFast, reverse, conceal, strike, underlineTwice, frame,
  encircle, overline]

/-- The word for a mark. -/
def word : Mark → String
  | bold => "bold"
  | dim => "dim"
  | italic => "italic"
  | underline => "underline"
  | blink => "blink"
  | blinkFast => "blink2"
  | reverse => "reverse"
  | conceal => "conceal"
  | strike => "strike"
  | underlineTwice => "underline2"
  | frame => "frame"
  | encircle => "encircle"
  | overline => "overline"

/-- The marks that have short words. -/
def short : List (String × Mark) := [
  ("b", bold), ("c", conceal), ("d", dim), ("i", italic), ("o", overline), ("r", reverse),
  ("s", strike), ("u", underline), ("uu", underlineTwice)]

/-- The mark that a word stands for. -/
def ofWord? (word : String) : Option Mark :=
  (short.lookup word).or (all.find? fun mark => mark.word = word)

theorem mem_all (mark : Mark) : mark ∈ all := by cases mark <;> decide

/-- Every mark has a word of its own. -/
theorem ofWord?_word (mark : Mark) : ofWord? mark.word = some mark := by
  cases mark <;> decide

end Mark

/-- Why words define no style. -/
inductive StyleFault where
  | notAStyle
  /-- A part of a color that should be a number is none. -/
  | notANumber (shownPart : String)
  deriving Repr, DecidableEq

/-- Names of colors, with blanks between them. -/
def colorLines : List String := [
  "aquamarine1 aquamarine3 black blue blue1 blue3 blue_violet bright_black bright_blue",
  "bright_cyan bright_green bright_magenta bright_red bright_white bright_yellow cadet_blue",
  "chartreuse1 chartreuse2 chartreuse3 chartreuse4 cornflower_blue cornsilk1 cyan cyan1 cyan2",
  "cyan3 dark_blue dark_cyan dark_goldenrod dark_green dark_khaki dark_magenta",
  "dark_olive_green1 dark_olive_green2 dark_olive_green3 dark_orange dark_orange3 dark_red",
  "dark_sea_green dark_sea_green1 dark_sea_green2 dark_sea_green3 dark_sea_green4",
  "dark_slate_gray1 dark_slate_gray2 dark_slate_gray3 dark_turquoise dark_violet deep_pink1",
  "deep_pink2 deep_pink3 deep_pink4 deep_sky_blue1 deep_sky_blue2 deep_sky_blue3 deep_sky_blue4",
  "default dodger_blue1 dodger_blue2 dodger_blue3 gold1 gold3 gray0 gray100 gray11 gray15",
  "gray19 gray23 gray27 gray3 gray30 gray35 gray37 gray39 gray42 gray46 gray50 gray53 gray54",
  "gray58 gray62 gray63 gray66 gray69 gray7 gray70 gray74 gray78 gray82 gray84 gray85 gray89",
  "gray93 green green1 green3 green4 green_yellow grey0 grey100 grey11 grey15 grey19 grey23",
  "grey27 grey3 grey30 grey35 grey37 grey39 grey42 grey46 grey50 grey53 grey54 grey58 grey62",
  "grey63 grey66 grey69 grey7 grey70 grey74 grey78 grey82 grey84 grey85 grey89 grey93 honeydew2",
  "hot_pink hot_pink2 hot_pink3 indian_red indian_red1 khaki1 khaki3 light_coral light_cyan1",
  "light_cyan3 light_goldenrod1 light_goldenrod2 light_goldenrod3 light_green light_pink1",
  "light_pink3 light_pink4 light_salmon1 light_salmon3 light_sea_green light_sky_blue1",
  "light_sky_blue3 light_slate_blue light_slate_gray light_slate_grey light_steel_blue",
  "light_steel_blue1 light_steel_blue3 light_yellow3 magenta magenta1 magenta2 magenta3",
  "medium_orchid medium_orchid1 medium_orchid3 medium_purple medium_purple1 medium_purple2",
  "medium_purple3 medium_purple4 medium_spring_green medium_turquoise medium_violet_red",
  "misty_rose1 misty_rose3 navajo_white1 navajo_white3 navy_blue orange1 orange3 orange4",
  "orange_red1 orchid orchid1 orchid2 pale_green1 pale_green3 pale_turquoise1 pale_turquoise4",
  "pale_violet_red1 pink1 pink3 plum1 plum2 plum3 plum4 purple purple3 purple4 red red1 red3",
  "rosy_brown royal_blue1 salmon1 sandy_brown sea_green1 sea_green2 sea_green3 sky_blue1",
  "sky_blue2 sky_blue3 slate_blue1 slate_blue3 spring_green1 spring_green2 spring_green3",
  "spring_green4 steel_blue steel_blue1 steel_blue3 tan thistle1 thistle3 turquoise2 turquoise4",
  "violet wheat1 wheat4 white yellow yellow1 yellow2 yellow3 yellow4"]

/-- The names of colors. -/
def colorNames : List String :=
  colorLines.flatMap (·.splitOn " ")

namespace Color

/-- What stands in the brackets of a text that begins with a name and an opening bracket. -/
def argument? (opening : String) (cs : List Char) : Option (List Char) :=
  (Text.dropStart? opening.toList cs).bind fun rest =>
    if rest.getLast? = some ')' then some rest.dropLast else none

/-- The greatest part of a color. -/
def greatestPart : Nat := 255

/-- The digits that a number may have. -/
def digitLimit : Nat := 4300

/-- The color by its six hexadecimal digits. -/
def isHex (cs : List Char) : Bool :=
  match cs with
  | '#' :: digits => digits.length = 6 && digits.all fun c => (Text.hexValue? c).isSome
  | _ => false

/-- The color by its number in the palette. -/
def isNumbered (cs : List Char) : Bool :=
  (argument? "color(" cs).any fun digits =>
    digits.length ≠ 0 && digits.length ≤ 3 && digits.all Char.isDigit &&
      Text.numeral digits ≤ greatestPart

/-- A part of a color. -/
def part (digits : List Char) : Except StyleFault Nat :=
  if digits.isEmpty || digitLimit < digits.length then
    .error (.notANumber (String.ofList digits))
  else .ok (Text.numeral digits)

/-- The parts of a color between commas. -/
def parts (cs : List Char) : Except StyleFault Unit :=
  if cs.isEmpty || !cs.all fun c => Text.isDecimalDigit c || c == ',' then .error .notAStyle
  else
    match cs.splitOn ',' with
    | [red, green, blue] => do
      let values ← [red, green, blue].mapM part
      if values.all (· ≤ greatestPart) then .ok () else .error .notAStyle
    | _ => .error .notAStyle

/-- The color that a word names, in small letters. -/
def ofWord (word : String) : Except StyleFault String := do
  let name := Text.lower word
  let cs := name.toList
  if colorNames.contains name || isHex cs || isNumbered cs then return name
  match argument? "rgb(" cs with
  | none => .error .notAStyle
  | some inner => do
    parts inner
    return name

end Color

/-- A style: the marks that are set or taken away, those set last in front, and the colors of the
letters and of the ground. -/
structure Style where
  marks : List (Mark × Bool) := []
  color : Option String := none
  ground : Option String := none
  link : Option String := none
  deriving Repr, DecidableEq

namespace Style

/-- Sets a mark or takes it away. -/
def withMark (mark : Mark) (isSet : Bool) (style : Style) : Style :=
  { style with marks := (mark, isSet) :: style.marks }

/-- The style that words define on top of a style. -/
def ofWordsOn (style : Style) : List String → Except StyleFault Style
  | [] => .ok style
  | [word] => do
    if let some mark := Mark.ofWord? (Text.lower word) then return style.withMark mark true
    return { style with color := some (← Color.ofWord word) }
  | word :: next :: rest =>
    let key := Text.lower word
    if key = "on" then do
      ofWordsOn { style with ground := some (← Color.ofWord next) } rest
    else if key = "not" then
      match Mark.ofWord? next with
      | some mark => ofWordsOn (style.withMark mark false) rest
      | none => .error .notAStyle
    else if key = "link" then ofWordsOn { style with link := some next } rest
    else
      match Mark.ofWord? key with
      | some mark => ofWordsOn (style.withMark mark true) (next :: rest)
      | none => do ofWordsOn { style with color := some (← Color.ofWord word) } (next :: rest)

/-- The words of a style that say what it does to a mark. -/
def markWords (style : Style) (mark : Mark) : List String :=
  match style.marks.lookup mark with
  | none => []
  | some true => [mark.word]
  | some false => ["not", mark.word]

/-- The words that define the style. -/
def words (style : Style) : List String :=
  Mark.all.flatMap style.markWords ++ style.color.toList ++
    style.ground.elim [] (["on", ·]) ++ style.link.elim [] (["link", ·])

/-- The words between blanks. -/
def splitWords (definition : String) : List String :=
  ((definition.toList.splitBy fun a b => Text.isBlank a == Text.isBlank b).filter
    fun run => !run.all Text.isBlank).map String.ofList

/-- The word for the style that changes nothing. -/
def plainWord : String := "none"

/-- The style that a definition describes. -/
def ofText (definition : String) : Except StyleFault Style :=
  if Text.strip definition = plainWord then .ok {}
  else ofWordsOn {} (splitWords definition)

/-- What a definition that describes no style gives, unless it names a color by something that is no
number. Then it gives that. -/
def unlessNumber {α : Type} (instead : α) : Except StyleFault α → Except String α
  | .ok value => .ok value
  | .error .notAStyle => .ok instead
  | .error (.notANumber shownPart) => .error shownPart

/-- The definition that a style has before all others. -/
def text (style : Style) : String :=
  if style.words.isEmpty then plainWord else " ".intercalate style.words

/-- The normal form of a definition; one that describes no style is kept, but for its case. -/
def normalForm (definition : String) : Except String String :=
  unlessNumber (Text.lower (Text.strip definition)) ((ofText definition).map text)

/-- A definition that is applied need not describe a style, but its numbers have to be right. -/
def check (definition : String) : Except String Unit :=
  unlessNumber () ((ofText definition).map fun _ => ())

end Style

end ScriptVet.Console
