import ColorCalls.Text.Basic

namespace ColorCalls

/-- The values of environment variables, as far as they are set and are texts. -/
abbrev Environment := Text → Option Text

end ColorCalls
