/-
The styles that tags of markup name: attributes that are on or off, a colour, a background, and a
link. Styles that look alike are written alike: attributes in a fixed order, the last of two
colours.
-/
import SolidityWire.Text.Lowercase
import SolidityWire.Text.Numeral

namespace SolidityWire.CommandLine

/-! ## Colours -/

/-- The names of colours. -/
def colourNames : List String := [
  "black", "red", "green", "yellow", "blue", "magenta", "cyan", "white", "bright_black",
  "bright_red", "bright_green", "bright_yellow", "bright_blue", "bright_magenta", "bright_cyan",
  "bright_white", "grey0", "gray0", "navy_blue", "dark_blue", "blue3", "blue1", "dark_green",
  "deep_sky_blue4", "dodger_blue3", "dodger_blue2", "green4", "spring_green4", "turquoise4",
  "deep_sky_blue3", "dodger_blue1", "green3", "spring_green3", "dark_cyan", "light_sea_green",
  "deep_sky_blue2", "deep_sky_blue1", "spring_green2", "cyan3", "dark_turquoise", "turquoise2",
  "green1", "spring_green1", "medium_spring_green", "cyan2", "cyan1", "dark_red", "deep_pink4",
  "purple4", "purple3", "blue_violet", "orange4", "grey37", "gray37", "medium_purple4",
  "slate_blue3", "royal_blue1", "chartreuse4", "dark_sea_green4", "pale_turquoise4", "steel_blue",
  "steel_blue3", "cornflower_blue", "chartreuse3", "cadet_blue", "sky_blue3", "steel_blue1",
  "pale_green3", "sea_green3", "aquamarine3", "medium_turquoise", "chartreuse2", "sea_green2",
  "sea_green1", "aquamarine1", "dark_slate_gray2", "dark_magenta", "dark_violet", "purple",
  "light_pink4", "plum4", "medium_purple3", "slate_blue1", "yellow4", "wheat4", "grey53",
  "gray53", "light_slate_grey", "light_slate_gray", "medium_purple", "light_slate_blue",
  "dark_olive_green3", "dark_sea_green", "light_sky_blue3", "sky_blue2", "dark_sea_green3",
  "dark_slate_gray3", "sky_blue1", "chartreuse1", "light_green", "pale_green1",
  "dark_slate_gray1", "red3", "medium_violet_red", "magenta3", "dark_orange3", "indian_red",
  "hot_pink3", "medium_orchid3", "medium_orchid", "medium_purple2", "dark_goldenrod",
  "light_salmon3", "rosy_brown", "grey63", "gray63", "medium_purple1", "gold3", "dark_khaki",
  "navajo_white3", "grey69", "gray69", "light_steel_blue3", "light_steel_blue", "yellow3",
  "dark_sea_green2", "light_cyan3", "light_sky_blue1", "green_yellow", "dark_olive_green2",
  "dark_sea_green1", "pale_turquoise1", "deep_pink3", "magenta2", "hot_pink2", "orchid",
  "medium_orchid1", "orange3", "light_pink3", "pink3", "plum3", "violet", "light_goldenrod3",
  "tan", "misty_rose3", "thistle3", "plum2", "khaki3", "light_goldenrod2", "light_yellow3",
  "grey84", "gray84", "light_steel_blue1", "yellow2", "dark_olive_green1", "honeydew2",
  "light_cyan1", "red1", "deep_pink2", "deep_pink1", "magenta1", "orange_red1", "indian_red1",
  "hot_pink", "dark_orange", "salmon1", "light_coral", "pale_violet_red1", "orchid2", "orchid1",
  "orange1", "sandy_brown", "light_salmon1", "light_pink1", "pink1", "plum1", "gold1",
  "navajo_white1", "misty_rose1", "thistle1", "yellow1", "light_goldenrod1", "khaki1", "wheat1",
  "cornsilk1", "grey100", "gray100", "grey3", "gray3", "grey7", "gray7", "grey11", "gray11",
  "grey15", "gray15", "grey19", "gray19", "grey23", "gray23", "grey27", "gray27", "grey30",
  "gray30", "grey35", "gray35", "grey39", "gray39", "grey42", "gray42", "grey46", "gray46",
  "grey50", "gray50", "grey54", "gray54", "grey58", "gray58", "grey62", "gray62", "grey66",
  "gray66", "grey70", "gray70", "grey74", "gray74", "grey78", "gray78", "grey82", "gray82",
  "grey85", "gray85", "grey89", "gray89", "grey93", "gray93"]

/-- What the text of a colour is: one, none, or one with a number that cannot be read. -/
inductive ColourText where
  | colour
  | unknown
  | badNumber
  deriving DecidableEq, Inhabited, Repr

/-- Whether a part of a colour has a number, and whether that is at most 255. -/
def componentText (digits : List Char) : ColourText :=
  if digits.isEmpty || Text.mostDigits < digits.length then .badNumber
  else if (digits.foldl (fun n c => n * 10 + (Text.digitValue? c).getD 0) 0) ≤ 255 then .colour
  else .unknown

/-- What the parts of a colour say together. -/
def componentsText (parts : List (List Char)) : ColourText :=
  let texts := parts.map componentText
  if parts.length ≠ 3 then .unknown
  else if texts.contains .badNumber then .badNumber
  else if texts.contains .unknown then .unknown
  else .colour

/-- The characters between two texts that a word begins and ends with. -/
def between? (opening closing : String) (cs : List Char) : Option (List Char) :=
  let inner := (cs.drop opening.length).take (cs.length - opening.length - closing.length)
  if cs = opening.toList ++ inner ++ closing.toList then some inner else none

/-- What a word in small letters is as a colour: a name, six hexadecimal digits, a number of the
palette, or three parts. -/
def colourText (word : String) : ColourText :=
  let cs := word.toList
  let isHex (c : Char) : Bool := c.isDigit || ('a' ≤ c && c ≤ 'f')
  if word = "default" || colourNames.contains word then .colour
  else
    match cs with
    | '#' :: digits => if digits.length = 6 && digits.all isHex then .colour else .unknown
    | cs =>
      match between? "color(" ")" cs, between? "rgb(" ")" cs with
      | some digits, _ =>
        if digits.all Char.isDigit && 0 < digits.length && digits.length ≤ 3 then
          componentText digits
        else .unknown
      | none, some inner =>
        if !inner.isEmpty && inner.all fun c => c = ',' || Text.isDigit c then
          componentsText (inner.splitOn ',')
        else .unknown
      | none, none => .unknown

/-! ## Styles -/

/-- The attributes in the order in which they are written. -/
def attributeNames : List String :=
  ["bold", "dim", "italic", "underline", "blink", "blink2", "reverse", "conceal", "strike",
    "underline2", "frame", "encircle", "overline"]

/-- The abbreviated names of attributes. -/
def attributeAliases : List (String × String) :=
  [("b", "bold"), ("d", "dim"), ("i", "italic"), ("u", "underline"), ("r", "reverse"),
    ("c", "conceal"), ("s", "strike"), ("uu", "underline2"), ("o", "overline")]

/-- The attribute that a word names. -/
def attribute? (word : String) : Option String :=
  if attributeNames.contains word then some word else attributeAliases.lookup word

/-- A style; of an attribute that is set more than once the last setting counts. -/
structure Style where
  attributes : List (String × Bool) := []
  colour : Option String := none
  background : Option String := none
  link : Option String := none
  deriving DecidableEq, Inhabited, Repr

/-- What the text of a style is: one, none, or one with a number that cannot be read. -/
inductive StyleText where
  | style (s : Style)
  | unknown
  | badNumber
  deriving DecidableEq, Inhabited, Repr

namespace Style

/-- The style with a colour set by `put`, if the word is one. -/
def withColour (word : String) (put : String → StyleText) : StyleText :=
  let name := Text.lowercase word
  match colourText name with
  | .colour => put name
  | .unknown => .unknown
  | .badNumber => .badNumber

/-- Adds the settings of words to a style. -/
def ofWords (s : Style) : List String → StyleText
  | [] => .style s
  | [word] =>
    let name := Text.lowercase word
    if name = "on" ∨ name = "not" ∨ name = "link" then .unknown
    else
      match attribute? name with
      | some a => .style { s with attributes := (a, true) :: s.attributes }
      | none => withColour word fun c => .style { s with colour := some c }
  | word :: next :: rest =>
    let name := Text.lowercase word
    if name = "on" then
      withColour next fun c => ofWords { s with background := some c } rest
    else if name = "not" then
      match attribute? next with
      | some a => ofWords { s with attributes := (a, false) :: s.attributes } rest
      | none => .unknown
    else if name = "link" then ofWords { s with link := some next } rest
    else
      match attribute? name with
      | some a => ofWords { s with attributes := (a, true) :: s.attributes } (next :: rest)
      | none => withColour word fun c => ofWords { s with colour := some c } (next :: rest)
termination_by words => words.length

/-- The style that a text names. -/
def ofText (text : String) : StyleText :=
  if Text.words text = ["none"] then .style {} else ofWords {} (Text.words text)

/-- The words of a style: its attributes in their order, its colour, its background and its link. -/
def toText (s : Style) : String :=
  let attributes := attributeNames.filterMap fun a =>
    (s.attributes.lookup a).map fun on => if on then a else "not " ++ a
  let words := attributes ++ s.colour.toList ++ (s.background.map ("on " ++ ·)).toList ++
    (s.link.map ("link " ++ ·)).toList
  if words.isEmpty then "none" else " ".intercalate words

end Style

end SolidityWire.CommandLine
