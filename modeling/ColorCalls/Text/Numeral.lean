import ColorCalls.Text.Basic

namespace ColorCalls.Text

def decimal (n : Nat) : Text := Nat.toDigits 10 n

def hexadecimal (n : Nat) : Text := Nat.toDigits 16 n

def hexByte (b : UInt8) : Text := [Nat.digitChar (b.toNat / 16), Nat.digitChar (b.toNat % 16)]

def hexDigitValue? (c : Char) : Option Nat :=
  if c.isDigit then some (c.toNat - '0'.toNat)
  else if 'a' ≤ c ∧ c ≤ 'f' then some (c.toNat - 'a'.toNat + 10)
  else if 'A' ≤ c ∧ c ≤ 'F' then some (c.toNat - 'A'.toNat + 10)
  else none

def digits? (t : Text) : Option Nat :=
  if t ≠ [] ∧ t.all Char.isDigit then some (Nat.ofDigitChars 10 t 0) else none

theorem digits?_decimal (n : Nat) : digits? (decimal n) = some n := by
  have hall : (decimal n).all Char.isDigit = true :=
    List.all_eq_true.mpr fun _ hc => Nat.isDigit_of_mem_toDigits (by decide) (by decide) hc
  have hne : decimal n ≠ [] := Nat.toDigits_ne_nil
  rw [digits?, if_pos ⟨hne, hall⟩, decimal, Nat.ofDigitChars_toDigits (by decide) (by decide)]

def maxWord : Nat := 0xffffffffffffffff

/-- Reads an optional `+` and one or more digits as a number of one 64-bit word. -/
def word? : Text → Option Nat
  | '+' :: t => (digits? t).filter (· ≤ maxWord)
  | t => (digits? t).filter (· ≤ maxWord)

/-- What a signed 64-bit reader finds. It stops at the first fault from the left, so a digit that
overflows hides whatever stands after it. -/
inductive Signed where
  | value (n : Int)
  | overflow
  | malformed
  deriving DecidableEq, Repr

/-- Reads digits after the magnitude `n`, which may grow up to `limit`. -/
def magnitude (limit : Nat) (sign : Int) (n : Nat) : Text → Signed
  | [] => .value (sign * n)
  | c :: r =>
      if c.isDigit then
        let next := 10 * n + (c.toNat - '0'.toNat)
        if next ≤ limit then magnitude limit sign next r else .overflow
      else .malformed

def signed : Text → Signed
  | [] => .malformed
  | '+' :: r => if r = [] then .malformed else magnitude 0x7fffffffffffffff 1 0 r
  | '-' :: r => if r = [] then .malformed else magnitude 0x8000000000000000 (-1) 0 r
  | t => magnitude 0x7fffffffffffffff 1 0 t

end ColorCalls.Text
