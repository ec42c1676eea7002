import ColorCalls.Color
import ColorCalls.Environment
import ColorCalls.Terminal
import ColorCalls.Text.Blank
import ColorCalls.Text.Split

/-! Color samples for a terminal: a run of blanks with the color behind it. Alpha is not shown. -/

namespace ColorCalls.Swatch

inductive Mode where
  | trueColor
  | eightBit
  | off
  deriving DecidableEq, Repr

/-- The lower case of a character, for comparison with lower-case ASCII letters: of all others only
the kelvin sign has one of those as its lower case. -/
def foldLetter (c : Char) : Char := if c = '\u212A' then 'k' else c.toLower

def terminalWord (t : Text) : Text := (Text.trim t).map foldLetter

def detect (env : Environment) (isTerminal : Bool) : Mode :=
  if ((env "NO_COLOR").getD []) ≠ [] || !isTerminal then .off
  else
    let colors := terminalWord ((env "COLORTERM").getD [])
    let terminal := terminalWord ((env "TERM").getD [])
    if colors = "truecolor" ∨ colors = "24bit" then .trueColor
    else if terminal = "dumb" ∨ terminal = "unknown" then .off
    else if Text.afterLast '-' terminal = "direct" then .trueColor
    else .eightBit

/-! The palette: entries 16 to 231 are a cube with six levels a channel, entries 232 to 255 a ramp
of grays. Dull colors go to the ramp, and black and white to the corners of the cube. -/

/-- Half the sum of the strongest and the weakest channel, in units of 1/510. -/
def lightness (c : Rgb) : Nat :=
  (max c.red (max c.green c.blue)).toNat + (min c.red (min c.green c.blue)).toNat

def spread (c : Rgb) : Nat :=
  (max c.red (max c.green c.blue)).toNat - (min c.red (min c.green c.blue)).toNat

def saturation (c : Rgb) : Float :=
  if spread c = 0 then 0
  else
    (Float.ofNat (spread c) / 255) / (1 - (2 * (Float.ofNat (lightness c) / 510) - 1).abs)

/-- The level of the cube nearest to a channel. The lowest step is 95 wide, the others 40. -/
def cubeLevel (v : UInt8) : Nat :=
  if v < 95 then (2 * v.toNat + 95) / 190
  else min 5 (1 + (2 * (v.toNat - 95) + 40) / 80)

def grayStep (lightness : Nat) : Nat :=
  min 23 ((2 * (100 * lightness - 2040) * 24 + 46920) / 93840)

def paletteIndex (c : Rgb) : UInt8 :=
  if saturation c < 0.15 then
    if 100 * lightness c < 4 * 510 then 16
    else if 96 * 510 < 100 * lightness c then 231
    else .ofNat (232 + grayStep (lightness c))
  else .ofNat (16 + 36 * cubeLevel c.red + 6 * cubeLevel c.green + cubeLevel c.blue)

def painted (background : Text) (width : Nat) : Text :=
  if width = 0 then []
  else
    Terminal.rendition background ++ List.replicate width ' ' ++
      Terminal.rendition Terminal.defaultBackground

def render (c : Rgb) (width : Nat) : Mode → Text
  | .off => []
  | .trueColor => painted (Terminal.trueColorBackground c.red c.green c.blue) width
  | .eightBit => painted (Terminal.paletteBackground (paletteIndex c)) width

end ColorCalls.Swatch
