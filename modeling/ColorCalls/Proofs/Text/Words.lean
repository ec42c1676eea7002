import ColorCalls.Proofs.Text.Trim

namespace ColorCalls.Text

/-- Each run of white space as one space. -/
def collapsed : Text → Text
  | [] => []
  | c :: t =>
      if isBlank c then
        if t.head?.any isBlank then collapsed t else ' ' :: collapsed t
      else c :: collapsed t

end ColorCalls.Text
