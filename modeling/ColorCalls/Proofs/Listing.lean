import ColorCalls.Listing
import ColorCalls.Proofs.Codec.Written
import ColorCalls.Proofs.Position
import ColorCalls.Proofs.Text.Words
import Mathlib.Data.List.Forall2

namespace ColorCalls

namespace Listing

variable {cells : Text → Nat}

/-- The line shows the row: its location, a color sample if there are any, the notation, the call
with each run of white space as one space, and the style-sheet form. Blanks fill the location and
the call up to the widths of their columns. -/
structure Shows (cells : Text → Nat) (mode : Swatch.Mode)
    (swatchWidth locationWidth callWidth : Nat) (row : Row) (line : Text) : Prop where
  columns : ∃ locationFill encodingFill callFill : Nat,
    cells row.location + locationFill = locationWidth ∧
    row.call.color.encoding.name.length + encodingFill = 5 ∧
    cells (Text.collapsed row.call.text) + callFill = callWidth ∧
    line = row.location ++ List.replicate locationFill ' ' ++ [' ', ' '] ++
      (if mode ≠ .off ∧ 0 < swatchWidth then
        Swatch.render row.call.color.toRgb swatchWidth mode ++ [' ', ' ']
      else []) ++
      row.call.color.encoding.name ++ List.replicate encodingFill ' ' ++ [' ', ' '] ++
      Text.collapsed row.call.text ++ List.replicate callFill ' ' ++ [' ', ' '] ++
      row.call.color.css
  noLineFeed : '\n' ∉ line

variable {mode : Swatch.Mode} {swatchWidth locationWidth callWidth : Nat} {row : Row}

end Listing

end ColorCalls
