import ControlChannel.Text.Blank
import ControlChannel.Text.LowerCase
import ControlChannel.Text.Numeral

/-!
# Colours

A colour is named, numbered, or mixed from red, green and blue.

* `Color`, `Color.read?` — a colour under the words that ask for it, and the one that a word
  asks for;
* `Shade.within` — the shade that is shown where there are fewer colours.  **A shade that can be
  shown is shown as it is**;
* `Shade.codes` — the numbers that switch a terminal to a shade.
-/

namespace ControlChannel

/-- What a colour is made of. -/
inductive Shade
  /-- The terminal's own colour. -/
  | own
  /-- A colour of the table of 256, whose first sixteen every terminal has. -/
  | numbered (number : Nat)
  | mixed (red green blue : Nat)
  deriving DecidableEq

/-- A colour under the word that asks for it. -/
structure Color where
  name : Text
  shade : Shade
  deriving DecidableEq

/-- The colours that a terminal has. -/
inductive ColorRange
  /-- The first sixteen. -/
  | standard
  /-- The table of 256. -/
  | numbered
  /-- All of them. -/
  | full
  deriving DecidableEq

namespace Color

/-! ### Reading -/

/-- The numbered colours that have names, each with its names. -/
def nameTable : String :=
  "0 black; 1 red; 2 green; 3 yellow; 4 blue; 5 magenta; 6 cyan; 7 white; 8 bright_black; 9
  bright_red; 10 bright_green; 11 bright_yellow; 12 bright_blue; 13 bright_magenta; 14
  bright_cyan; 15 bright_white; 16 grey0 gray0; 17 navy_blue; 18 dark_blue; 20 blue3; 21 blue1; 22
  dark_green; 25 deep_sky_blue4; 26 dodger_blue3; 27 dodger_blue2; 28 green4; 29 spring_green4; 30
  turquoise4; 32 deep_sky_blue3; 33 dodger_blue1; 36 dark_cyan; 37 light_sea_green; 38
  deep_sky_blue2; 39 deep_sky_blue1; 40 green3; 41 spring_green3; 43 cyan3; 44 dark_turquoise; 45
  turquoise2; 46 green1; 47 spring_green2; 48 spring_green1; 49 medium_spring_green; 50 cyan2; 51
  cyan1; 55 purple4; 56 purple3; 57 blue_violet; 59 grey37 gray37; 60 medium_purple4; 62
  slate_blue3; 63 royal_blue1; 64 chartreuse4; 66 pale_turquoise4; 67 steel_blue; 68 steel_blue3;
  69 cornflower_blue; 71 dark_sea_green4; 73 cadet_blue; 74 sky_blue3; 76 chartreuse3; 78
  sea_green3; 79 aquamarine3; 80 medium_turquoise; 81 steel_blue1; 83 sea_green2; 85 sea_green1;
  87 dark_slate_gray2; 88 dark_red; 91 dark_magenta; 94 orange4; 95 light_pink4; 96 plum4; 98
  medium_purple3; 99 slate_blue1; 101 wheat4; 102 grey53 gray53; 103 light_slate_grey
  light_slate_gray; 104 medium_purple; 105 light_slate_blue; 106 yellow4; 108 dark_sea_green; 110
  light_sky_blue3; 111 sky_blue2; 112 chartreuse2; 114 pale_green3; 116 dark_slate_gray3; 117
  sky_blue1; 118 chartreuse1; 120 light_green; 122 aquamarine1; 123 dark_slate_gray1; 125
  deep_pink4; 126 medium_violet_red; 128 dark_violet; 129 purple; 133 medium_orchid3; 134
  medium_orchid; 136 dark_goldenrod; 138 rosy_brown; 139 grey63 gray63; 140 medium_purple2; 141
  medium_purple1; 143 dark_khaki; 144 navajo_white3; 145 grey69 gray69; 146 light_steel_blue3; 147
  light_steel_blue; 149 dark_olive_green3; 150 dark_sea_green3; 152 light_cyan3; 153
  light_sky_blue1; 154 green_yellow; 155 dark_olive_green2; 156 pale_green1; 157 dark_sea_green2;
  159 pale_turquoise1; 160 red3; 162 deep_pink3; 164 magenta3; 166 dark_orange3; 167 indian_red;
  168 hot_pink3; 169 hot_pink2; 170 orchid; 172 orange3; 173 light_salmon3; 174 light_pink3; 175
  pink3; 176 plum3; 177 violet; 178 gold3; 179 light_goldenrod3; 180 tan; 181 misty_rose3; 182
  thistle3; 183 plum2; 184 yellow3; 185 khaki3; 187 light_yellow3; 188 grey84 gray84; 189
  light_steel_blue1; 190 yellow2; 192 dark_olive_green1; 193 dark_sea_green1; 194 honeydew2; 195
  light_cyan1; 196 red1; 197 deep_pink2; 199 deep_pink1; 200 magenta2; 201 magenta1; 202
  orange_red1; 204 indian_red1; 206 hot_pink; 207 medium_orchid1; 208 dark_orange; 209 salmon1;
  210 light_coral; 211 pale_violet_red1; 212 orchid2; 213 orchid1; 214 orange1; 215 sandy_brown;
  216 light_salmon1; 217 light_pink1; 218 pink1; 219 plum1; 220 gold1; 222 light_goldenrod2; 223
  navajo_white1; 224 misty_rose1; 225 thistle1; 226 yellow1; 227 light_goldenrod1; 228 khaki1; 229
  wheat1; 230 cornsilk1; 231 grey100 gray100; 232 grey3 gray3; 233 grey7 gray7; 234 grey11 gray11;
  235 grey15 gray15; 236 grey19 gray19; 237 grey23 gray23; 238 grey27 gray27; 239 grey30 gray30;
  240 grey35 gray35; 241 grey39 gray39; 242 grey42 gray42; 243 grey46 gray46; 244 grey50 gray50;
  245 grey54 gray54; 246 grey58 gray58; 247 grey62 gray62; 248 grey66 gray66; 249 grey70 gray70;
  250 grey74 gray74; 251 grey78 gray78; 252 grey82 gray82; 253 grey85 gray85; 254 grey89 gray89;
  255 grey93 gray93"

/-- The names of the numbered colours, with the numbers. -/
def names : List (Text × Nat) :=
  (Text.splitOn ';' nameTable).flatMap fun entry =>
    match Text.words entry with
    | [] => []
    | number :: names => names.map fun name => (name, Text.digitsValue number)

/-- The word for the terminal's own colour. -/
def ownWord : Text := "default"

/-- The text between two others, if it is what a word consists of. -/
def between? (first last word : Text) : Option Text := do
  let rest ← Text.dropFirst? first word
  if Text.startsWith rest.reverse last.reverse then some (rest.take (rest.length - last.length))
  else none

/-- The largest number of a colour, and of a part of one. -/
def largest : Nat := 255

/-- The value of hexadecimal digits. -/
def hexValue (digits : Text) : Nat := digits.foldl (fun n c => 16 * n + c.hexValue?.getD 0) 0

/-- The shade of six hexadecimal digits behind a number sign. -/
def hexShade? (word : Text) : Option Shade := do
  let digits ← Text.dropFirst? "#" word
  if digits.length = 6 && digits.all fun c => c.hexValue?.isSome then
    some (.mixed (hexValue (digits.take 2)) (hexValue ((digits.drop 2).take 2))
      (hexValue (digits.drop 4)))
  else none

/-- The shade that a word gives by its number. -/
def numberedShade? (word : Text) : Option Shade := do
  let digits ← between? "color(" ")" word
  if 0 < digits.length && digits.length ≤ 3 && digits.all (·.isDigit)
      && Text.digitsValue digits ≤ largest then some (.numbered (Text.digitsValue digits))
  else none

/-- The shade that a word gives by three numbers.  Where there are three places, each of them
must hold a numeral. -/
def mixedShade? (word : Text) : Except Numeral.Fault (Option Shade) :=
  match between? "rgb(" ")" word with
  | none => .ok none
  | some body =>
    let isPart (c : CodePoint) : Bool := c = ',' || c.decimalValue?.isSome
    match Text.splitOn ',' body with
    | [red, green, blue] =>
      if ! body.all isPart then .ok none
      else do
        let red ← Numeral.read red
        let green ← Numeral.read green
        let blue ← Numeral.read blue
        return if red ≤ largest && green ≤ largest && blue ≤ largest then
          some (.mixed red green blue)
        else none
    | _ => .ok none

/-- The colour that a word asks for. -/
def read? (word : Text) : Except Numeral.Fault (Option Color) :=
  let word := word.toLower
  let shade? : Option Shade :=
    if word = ownWord then some .own
    else
      match names.lookup word with
      | some number => some (.numbered number)
      | none => (hexShade? word).orElse fun _ => numberedShade? word
  match shade? with
  | some shade => .ok (some ⟨word, shade⟩)
  | none => (mixedShade? word).map fun shade? => shade?.map (⟨word, ·⟩)

end Color

namespace Shade

/-! ### Fewer colours -/

/-- The colours that every terminal has, as they usually look. -/
def standard : List (Nat × Nat × Nat) :=
  [(0, 0, 0), (170, 0, 0), (0, 170, 0), (170, 85, 0), (0, 0, 170), (170, 0, 170), (0, 170, 170),
    (170, 170, 170), (85, 85, 85), (255, 85, 85), (85, 255, 85), (255, 255, 85), (85, 85, 255),
    (255, 85, 255), (85, 255, 255), (255, 255, 255)]

/-- The first of the numbered colours beyond the standard ones. -/
def firstOfCube : Nat := 16

/-- The first of the numbered greys. -/
def firstGrey : Nat := 232

/-- The parts of red, green and blue in the numbered colours between. -/
def cubeLevel (step : Nat) : Nat := if step = 0 then 0 else 55 + 40 * step

/-- The parts of red, green and blue in a numbered colour beyond the standard ones. -/
def ofNumber (number : Nat) : Nat × Nat × Nat :=
  if firstGrey ≤ number then
    let level := 8 + 10 * (number - firstGrey)
    (level, level, level)
  else
    let place := number - firstOfCube
    (cubeLevel (place / 36), cubeLevel (place / 6 % 6), cubeLevel (place % 6))

/-- The square of a part of the distance of two colours. -/
def squared (a b : Nat) : Nat := (max a b - min a b) * (max a b - min a b)

/-- How far two colours are apart, as an eye sees it. -/
def distance : Nat × Nat × Nat → Nat × Nat × Nat → Nat
  | (red, green, blue), (red2, green2, blue2) =>
    let mean := (red + red2) / 2
    (512 + mean) * squared red red2 / 256 + 4 * squared green green2
      + (767 - mean) * squared blue blue2 / 256

/-- The number of the standard colour that is nearest to a colour, the first of several. -/
def nearest (color : Nat × Nat × Nat) : Nat :=
  let distances := standard.map (distance color)
  let least := distances.foldl min (distances.headD 0)
  distances.findIdx (· = least)

/-- A quotient to the nearest integer, a half to the even one. -/
def rounded (num den : Nat) : Nat :=
  let floor := num / den
  if den < 2 * (num % den) then floor + 1
  else if 2 * (num % den) < den then floor
  else floor + floor % 2

/-- Whether a colour is so pale that it is shown as a grey. -/
def isPale (red green blue : Nat) : Bool :=
  let part (n : Nat) : Float := n.toFloat / 255.0
  let most := part (max red (max green blue))
  let least := part (min red (min green blue))
  let spread := most - least
  let sum := most + least
  let saturation :=
    if spread == 0.0 then 0.0
    else if sum / 2.0 <= 0.5 then spread / sum
    else spread / (2.0 - most - least)
  saturation < 0.15

/-- How many of the 25 steps from black to white are as light as a colour. -/
def greyStep (red green blue : Nat) : Nat :=
  rounded (25 * (max red (max green blue) + min red (min green blue))) 510

/-- The step of the numbered colours that is nearest to a part of a colour. -/
def cubeStep (part : Nat) : Nat := if part < 95 then rounded part 95 else rounded (part - 55) 40

/-- The number for a mixed colour in the table of 256. -/
def numberOf (red green blue : Nat) : Nat :=
  if isPale red green blue then
    let step := greyStep red green blue
    if step = 0 then firstOfCube
    else if step = 25 then firstGrey - 1
    else firstGrey - 1 + step
  else firstOfCube + 36 * cubeStep red + 6 * cubeStep green + cubeStep blue

/-- The shade that is shown for another one where a terminal has only so many. -/
def within (range : ColorRange) : Shade → Shade
  | own => own
  | numbered number =>
    if range = .standard && firstOfCube ≤ number then numbered (nearest (ofNumber number))
    else numbered number
  | mixed red green blue =>
    match range with
    | .full => mixed red green blue
    | .numbered => numbered (numberOf red green blue)
    | .standard => numbered (nearest (red, green, blue))

/-! ### Codes -/

/-- The numbers that switch a terminal to a shade, in front or behind. -/
def codes (isBehind : Bool) : Shade → List Nat
  | own => [if isBehind then 49 else 39]
  | numbered number =>
    let first := if isBehind then 40 else 30
    if number < 8 then [first + number]
    else if number < firstOfCube then [first + 52 + number]
    else [first + 8, 5, number]
  | mixed red green blue => [(if isBehind then 48 else 38), 2, red, green, blue]

end Shade

end ControlChannel
