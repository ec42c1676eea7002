import ColorCalls.Locator
import ColorCalls.Swatch
import ColorCalls.Text.Cells

/-! Color calls as a table, one line each: location, color sample, notation, the call on a single
line, and its style-sheet form. Locations and calls are padded to common widths. -/

namespace ColorCalls.Listing

structure Row where
  location : Text
  call : ColorCall
  deriving DecidableEq, Repr

def Row.ofCall (label : Text) (call : ColorCall) : Row where
  location := label ++ ':' :: call.span.startPosition.display
  call := call

def Row.callText (row : Row) : Text := Text.singleSpaced row.call.text

def widest (cells : Text → Nat) (texts : List Text) : Nat :=
  texts.foldr (fun t width => max (cells t) width) 0

def gap : Text := "  "

def encodingWidth : Nat := 5

def swatchColumn (mode : Swatch.Mode) (swatchWidth : Nat) (row : Row) : Text :=
  if mode ≠ .off ∧ 0 < swatchWidth then
    Swatch.render row.call.color.toRgb swatchWidth mode ++ gap
  else []

def line (cells : Text → Nat) (mode : Swatch.Mode) (swatchWidth locationWidth callWidth : Nat)
    (row : Row) : Text :=
  Text.padTo cells locationWidth row.location ++ gap ++ swatchColumn mode swatchWidth row ++
    Text.padTo cells encodingWidth row.call.color.encoding.name ++ gap ++
    Text.padTo cells callWidth row.callText ++ gap ++ row.call.color.css

def render (rows : List Row) (mode : Swatch.Mode) (swatchWidth : Nat)
    (cells : Text → Nat := Text.cells) : Text :=
  let locationWidth := widest cells (rows.map Row.location)
  let callWidth := widest cells (rows.map Row.callText)
  rows.flatMap fun row => line cells mode swatchWidth locationWidth callWidth row ++ ['\n']

end ColorCalls.Listing
