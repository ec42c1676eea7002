import ColorCalls.Text.Basic

namespace ColorCalls.Text

/-- Membership of a character in inclusive code point ranges listed in increasing order. -/
def inRanges : List (Nat × Nat) → Char → Bool
  | [], _ => false
  | (low, high) :: rest, c =>
      if c.toNat < low then false
      else c.toNat ≤ high || inRanges rest c

end ColorCalls.Text
