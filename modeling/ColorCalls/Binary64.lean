import ColorCalls.Text.Letters
import ColorCalls.Text.Numeral

/-! Binary floating-point numbers of 64 bits, read from decimal text with a single rounding to the
nearest number (a tie goes to the even one), and rounded to a byte. A byte survives the way there
and back (`toByte_ofByte`). -/

namespace ColorCalls

structure Binary64 where
  bits : UInt64
  deriving DecidableEq, Repr

namespace Binary64

def signBit : Nat := 0x8000000000000000

/-- The weight of the lowest bit of the exponent. Also the bit that every significand has but the
smallest, and that is not written. -/
def exponentBit : Nat := 0x10000000000000

def infiniteMagnitude : Nat := 0x7ff0000000000000

def negative (x : Binary64) : Bool := signBit ≤ x.bits.toNat

def exponent (x : Binary64) : Nat := x.bits.toNat / exponentBit % 0x800

def fraction (x : Binary64) : Nat := x.bits.toNat % exponentBit

def isNaN (x : Binary64) : Bool := x.exponent == 2047 && x.fraction ≠ 0

def ofMagnitude (negative : Bool) (magnitude : Nat) : Binary64 :=
  ⟨.ofNat ((if negative then signBit else 0) + min magnitude infiniteMagnitude)⟩

def zero (negative : Bool) : Binary64 := ofMagnitude negative 0

def infinity (negative : Bool) : Binary64 := ofMagnitude negative infiniteMagnitude

def nan : Binary64 := ⟨0x7ff8000000000000⟩

def roundHalfEven (n d : Nat) : Nat :=
  let q := n / d
  let r := n % d
  if 2 * r < d then q
  else if d < 2 * r then q + 1
  else q + q % 2

/-- The largest `q` such that `2 ^ q` is at most `n / d`, for positive `n` and `d`. -/
def log2Ratio (n d : Nat) : Int :=
  let q : Int := (Nat.log2 n : Int) - Nat.log2 d
  if d * Nat.pow 2 q.toNat ≤ n * Nat.pow 2 (-q).toNat then q else q - 1

/-- The number nearest to `n / d`. Counted in units of the last place, its magnitude is both the
significand and, carried over, the exponent. -/
def ofRatio (negative : Bool) (n d : Nat) : Binary64 :=
  if n = 0 then zero negative
  else
    let unit := max (log2Ratio n d - 52) (-1074)
    let significand := roundHalfEven (n * Nat.pow 2 (-unit).toNat) (d * Nat.pow 2 unit.toNat)
    ofMagnitude negative ((unit + 1074).toNat * exponentBit + significand)

def ofDecimal (negative : Bool) (digits : Nat) (exponent : Int) : Binary64 :=
  let top := (Text.decimal digits).length + exponent
  if digits = 0 ∨ top < -330 then zero negative
  else if 310 < top then infinity negative
  else ofRatio negative (digits * Nat.pow 10 exponent.toNat) (Nat.pow 10 (-exponent).toNat)

def exponent? : Text → Option Int
  | '+' :: t => (Text.digits? t).map Int.ofNat
  | '-' :: t => (Text.digits? t).map fun n => -Int.ofNat n
  | t => (Text.digits? t).map Int.ofNat

def unsigned? (negative : Bool) (t : Text) : Option Binary64 := do
  let (whole, rest) := t.span Char.isDigit
  let (part, rest) := match rest with
    | '.' :: r => r.span Char.isDigit
    | _ => ([], rest)
  let digits ← Text.digits? (whole ++ part)
  let exponent ← match rest with
    | [] => some 0
    | 'e' :: r => exponent? r
    | 'E' :: r => exponent? r
    | _ => none
  return ofDecimal negative digits (exponent - part.length)

def ofSigned? (negative : Bool) (t : Text) : Option Binary64 :=
  let word := Text.lower t
  if word = "inf" ∨ word = "infinity" then some (infinity negative)
  else if word = "nan" then some nan
  else unsigned? negative t

/-- Reads a decimal number, `inf`, `infinity` or `nan` in letters of either case, after an
optional sign. -/
def ofText? : Text → Option Binary64
  | '+' :: t => ofSigned? false t
  | '-' :: t => ofSigned? true t
  | t => ofSigned? false t

def ofByte (b : UInt8) : Binary64 := ofRatio false b.toNat 1

/-- The whole number nearest to `x`, a half going up, held between 0 and 255; 0 for a NaN. -/
def toByte (x : Binary64) : UInt8 :=
  if x.isNaN || x.negative then 0
  else if 1075 ≤ x.exponent then 255
  else
    let significand := if x.exponent = 0 then x.fraction else exponentBit + x.fraction
    let scale := Nat.pow 2 (1075 - max x.exponent 1)
    .ofNat (min 255 ((2 * significand + scale) / (2 * scale)))

theorem toByte_ofByte (b : UInt8) : toByte (ofByte b) = b := by
  have hall : ∀ n < 256, toByte (ofByte (.ofNat n)) = UInt8.ofNat n := by decide +kernel
  simpa using hall b.toNat b.toNat_lt

end Binary64

end ColorCalls
