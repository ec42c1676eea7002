import ColorCalls.ColorNames
import ColorCalls.Text.Blank
import ColorCalls.Text.Letters

/-! The argument text of a color call. A text with a comma is a list of channels, a text between
two equal quotes is a name or a hexadecimal color, and anything else is no color. The first rule
that applies decides alone. -/

namespace ColorCalls

inductive Rejection where
  | empty
  | arity (found : Nat)
  | notAnInteger (token : Text)
  | outOfRange (token : Text)
  | unknownName (name : Text)
  | hexLength (found : Nat)
  | hexDigit (literal : Text)
  | unrecognized (arguments : Text)
  deriving DecidableEq, Repr

def Rejection.message : Rejection → Text
  | .empty => "Empty argument list"
  | .arity found => "Expected 3 or 4 channels, found " ++ Text.decimal found
  | .notAnInteger token => "Channel is not an integer: " ++ token
  | .outOfRange token => "Channel out of range 0-255: " ++ token
  | .unknownName name => "Unknown color name: " ++ name
  | .hexLength found => "Hex color must have 3, 4, 6 or 8 digits, found " ++ Text.decimal found
  | .hexDigit literal => "Invalid hex color: " ++ literal
  | .unrecognized arguments => "Unrecognized color arguments: " ++ arguments

namespace Arguments

inductive Rule where
  | channelList
  | stringLiteral
  deriving DecidableEq, Repr

def Rule.name : Rule → Text
  | .channelList => "channel list"
  | .stringLiteral => "string literal"

def unquote? : Text → Option Text
  | [] => none
  | c :: t =>
      if (c = '"' ∨ c = '\'') ∧ t.getLast? = some c then some t.dropLast else none

def rule? (t : Text) : Option Rule :=
  if ',' ∈ t then some .channelList
  else if (unquote? t).isSome then some .stringLiteral
  else none

def channel (token : Text) : Except Rejection UInt8 :=
  match Text.signed token with
  | .value n => if 0 ≤ n ∧ n ≤ 255 then .ok (.ofNat n.toNat) else .error (.outOfRange token)
  | .overflow => .error (.outOfRange token)
  | .malformed => .error (.notAnInteger token)

def channels (t : Text) : Except Rejection (Channels × Encoding) :=
  match (t.splitOn ',').map Text.trim with
  | [r, g, b] => do
      let r ← channel r
      let g ← channel g
      let b ← channel b
      return ({ red := r, green := g, blue := b }, .triple)
  | [r, g, b, a] => do
      let r ← channel r
      let g ← channel g
      let b ← channel b
      let a ← channel a
      return ({ red := r, green := g, blue := b, alpha := a }, .quad)
  | tokens => .error (.arity tokens.length)

/-- A channel of one hexadecimal digit, which stands for itself repeated. -/
def doubled (digit : Nat) : UInt8 := .ofNat (17 * digit)

def paired (high low : Nat) : UInt8 := .ofNat (16 * high + low)

/-- Hexadecimal digits after `#`. Their number is judged before the digits themselves, in bytes. -/
def hexChannels (digits : Text) : Except Rejection Channels :=
  match digits.mapM Text.hexDigitValue? with
  | some [r, g, b] => .ok { red := doubled r, green := doubled g, blue := doubled b }
  | some [r, g, b, a] =>
      .ok { red := doubled r, green := doubled g, blue := doubled b, alpha := doubled a }
  | some [r, r', g, g', b, b'] =>
      .ok { red := paired r r', green := paired g g', blue := paired b b' }
  | some [r, r', g, g', b, b', a, a'] =>
      .ok { red := paired r r', green := paired g g', blue := paired b b', alpha := paired a a' }
  | _ =>
      if Text.bytes digits ∈ [3, 4, 6, 8] then .error (.hexDigit ('#' :: digits))
      else .error (.hexLength (Text.bytes digits))

def literal (names : ColorNames) : Text → Except Rejection (Channels × Encoding)
  | '#' :: digits => do
      let channels ← hexChannels digits
      return (channels, .hex)
  | name =>
      match names.get? name with
      | some rgb => .ok ({ toRgb := rgb }, .named)
      | none => .error (.unknownName name)

def decode (names : ColorNames) (t : Text) : Except Rejection (Channels × Encoding) :=
  if t = [] then .error .empty
  else if ',' ∈ t then channels t
  else
    match unquote? t with
    | some inner => literal names inner
    | none => .error (.unrecognized t)

/-- Reads a trimmed argument text. -/
def read (names : ColorNames) (t : Text) : Except Rejection Color := do
  let (channels, encoding) ← decode names t
  return { toChannels := channels, encoding := encoding, source := t }

end Arguments

end ColorCalls
