import ColorCalls.Text.Basic

namespace ColorCalls.Text

/-- The text with `A` to `Z` in lower case and every other character kept. -/
def lower (t : Text) : Text := t.map Char.toLower

end ColorCalls.Text
