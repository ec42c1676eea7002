import ColorCalls.Text.Numeral

namespace ColorCalls

inductive Encoding where
  | triple
  | quad
  /-- Written `("#rrggbb")`, also with alpha digits or with one digit a channel. -/
  | hex
  | named
  deriving DecidableEq, Repr

def Encoding.name : Encoding → Text
  | .triple => "rgb"
  | .quad => "rgba"
  | .hex => "hex"
  | .named => "named"

def Encoding.carriesAlpha : Encoding → Bool
  | .quad | .hex => true
  | .triple | .named => false

structure Rgb where
  red : UInt8
  green : UInt8
  blue : UInt8
  deriving DecidableEq, Repr

structure Channels extends Rgb where
  alpha : UInt8 := 255
  deriving DecidableEq, Repr

structure Color extends Channels where
  encoding : Encoding
  /-- The argument text the color was read from. -/
  source : Text := []
  deriving DecidableEq, Repr

namespace Color

def withChannels (c : Color) (channels : Channels) : Color := { c with toChannels := channels }

def withEncoding (c : Color) (encoding : Encoding) : Color := { c with encoding := encoding }

def isOpaque (c : Color) : Bool := c.alpha == 255

end Color

def Rgb.hex (c : Rgb) : Text :=
  '#' :: (Text.hexByte c.red ++ Text.hexByte c.green ++ Text.hexByte c.blue)

def channelList (channels : List UInt8) : Text :=
  [',', ' '].intercalate (channels.map fun b => Text.decimal b.toNat)

/-- A fraction of 255 with two decimals, rounded to nearest; no byte lies between two of them. -/
def hundredths (b : UInt8) : Text :=
  let n := (200 * b.toNat + 255) / 510
  Text.decimal (n / 100) ++ ['.', Nat.digitChar (n / 10 % 10), Nat.digitChar (n % 10)]

/-- The style-sheet form, with an alpha between 0.00 and 1.00 when the color is not opaque. -/
def Color.css (c : Color) : Text :=
  let list := channelList [c.red, c.green, c.blue]
  if c.isOpaque then "rgb(" ++ list ++ [')']
  else "rgba(" ++ list ++ [',', ' '] ++ hundredths c.alpha ++ [')']

def Color.summary (c : Color) : Text :=
  c.encoding.name ++ " (" ++ channelList [c.red, c.green, c.blue, c.alpha] ++ [')']

end ColorCalls
