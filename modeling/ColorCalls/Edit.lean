import ColorCalls.Binary64
import ColorCalls.Locator

/-! Giving one color call of a text another color. The channels that a color picker reports are
rounded and held in range here, the notation of the call is kept as far as it can carry them, and
the call is replaced provided the text still holds it. -/

namespace ColorCalls

structure PickedColor where
  red : Binary64
  green : Binary64
  blue : Binary64
  alpha : Binary64
  deriving DecidableEq, Repr

namespace PickedColor

def ofChannels (c : Channels) : PickedColor where
  red := .ofByte c.red
  green := .ofByte c.green
  blue := .ofByte c.blue
  alpha := .ofByte c.alpha

def channels (p : PickedColor) : Channels where
  red := p.red.toByte
  green := p.green.toByte
  blue := p.blue.toByte
  alpha := p.alpha.toByte

@[simp] theorem channels_ofChannels (c : Channels) : (ofChannels c).channels = c := by
  simp [ofChannels, channels, Binary64.toByte_ofByte]

end PickedColor

inductive AlphaPolicy where
  /-- Keep the notation and drop alpha. -/
  | preserve
  /-- Change to the notation beside it that has room, unless alpha is 255. -/
  | promote
  deriving DecidableEq, Repr

def AlphaPolicy.resolve : AlphaPolicy → Encoding → UInt8 → Encoding
  | .promote, .triple, alpha => if alpha = 255 then .triple else .quad
  | .promote, .named, alpha => if alpha = 255 then .named else .hex
  | _, encoding, _ => encoding

structure Replacement where
  span : Span
  /-- What the stretch held when it was scanned. -/
  expected : Text
  text : Text
  color : Color
  deriving DecidableEq, Repr

inductive EditError where
  | noColorAt (position : Position)
  | outOfBounds (stop size : Nat)
  | stale (expected found : Text)
  deriving DecidableEq, Repr

def EditError.message : EditError → Text
  | .noColorAt position => "No QColor found at cursor position " ++ position.display ++ "."
  | .outOfBounds stop size =>
      "Edit span ends at byte " ++ Text.decimal stop ++ " but the text has " ++
        Text.decimal size ++ " bytes"
  | .stale expected found =>
      "Text changed since the scan: expected " ++ Text.quoted expected ++ ", found " ++
        Text.quoted found

def Replacement.apply (r : Replacement) (t : Text) : Except EditError Text :=
  match Text.slice? r.span.start r.span.stop t with
  | none => .error (.outOfBounds r.span.stop (Text.bytes t))
  | some (before, found, after) =>
      if found = r.expected then .ok (before ++ r.text ++ after)
      else .error (.stale r.expected found)

def planEdit (codec : Codec) (call : ColorCall) (picked : PickedColor) (policy : AlphaPolicy) :
    Replacement :=
  let channels := picked.channels
  let color := (call.color.withChannels channels).withEncoding
    (policy.resolve call.color.encoding channels.alpha)
  { span := call.span
    expected := call.text
    text := codec.format color
    color := color }

def Replacement.notice (r : Replacement) : Notice :=
  .replacing r.expected r.span.startPosition r.text

def editAt (locator : Locator) (t : Text) (p : Position) (picked : PickedColor)
    (policy : AlphaPolicy) : Except EditError Text :=
  match callAt? (locator.findAll t).found p with
  | none => .error (.noColorAt p)
  | some call => (planEdit locator.codec call picked policy).apply t

end ColorCalls
