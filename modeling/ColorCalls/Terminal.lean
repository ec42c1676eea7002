import ColorCalls.Text.Numeral

namespace ColorCalls.Terminal

def rendition (parameters : Text) : Text := '\x1b' :: '[' :: parameters ++ ['m']

def reset : Text := rendition "0"

def bold : Text := rendition "1"

def dim : Text := rendition "2"

def paletteForeground (index : Nat) : Text := "38;5;" ++ Text.decimal index

def defaultForeground : Text := "39"

def paletteBackground (index : UInt8) : Text := "48;5;" ++ Text.decimal index.toNat

def trueColorBackground (red green blue : UInt8) : Text :=
  "48;2;" ++ Text.decimal red.toNat ++ ';' :: Text.decimal green.toNat ++
    ';' :: Text.decimal blue.toNat

def defaultBackground : Text := "49"

end ColorCalls.Terminal
