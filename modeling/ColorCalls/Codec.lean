import ColorCalls.Memo
import ColorCalls.Notice

/-! Reading the arguments of a call and writing a color back as a call. A codec remembers what it
read last. That has no part in its answers (`result_parse`), only in what it notices. -/

namespace ColorCalls

abbrev Reading := Except Rejection Color

structure Codec where
  callee : Text := "QColor"
  names : ColorNames := ColorNames.standard
  recent : Memo (Arguments.read names) := Memo.empty

namespace Codec

def capacity : Nat := 1024

def fresh (codec : Codec) : Codec := { callee := codec.callee, names := codec.names }

def withCallee (codec : Codec) (callee : Text) : Codec := { codec.fresh with callee := callee }

def withNames (codec : Codec) (names : ColorNames) : Codec :=
  { callee := codec.callee, names := names }

structure Parsed where
  result : Reading
  codec : Codec
  notices : List Notice

/-- What is noticed when `arguments` is read and not just remembered. -/
def firstNotices (arguments : Text) : Reading → List Notice
  | .ok _ => []
  | .error rejection =>
      match Arguments.rule? arguments with
      | some rule => [.ruleRejected rule arguments rejection]
      | none => []

def parse (codec : Codec) (text : Text) : Parsed :=
  let arguments := Text.trim text
  match codec.recent.get? arguments with
  | some reading =>
      { result := reading
        codec := { codec with recent := codec.recent.promote arguments }
        notices := [] }
  | none =>
      let reading := Arguments.read codec.names arguments
      { result := reading
        codec := { codec with recent := codec.recent.put capacity arguments reading rfl }
        notices := firstNotices arguments reading }

theorem parse_of_get?_eq_some {codec : Codec} {text : Text} {reading : Reading}
    (h : codec.recent.get? (Text.trim text) = some reading) :
    codec.parse text =
      ⟨reading, { codec with recent := codec.recent.promote (Text.trim text) }, []⟩ := by
  simp only [parse, h]

theorem parse_of_get?_eq_none {codec : Codec} {text : Text}
    (h : codec.recent.get? (Text.trim text) = none) :
    codec.parse text =
      ⟨Arguments.read codec.names (Text.trim text),
        { codec with recent := codec.recent.put capacity (Text.trim text) _ rfl },
        firstNotices (Text.trim text) (Arguments.read codec.names (Text.trim text))⟩ := by
  simp only [parse, h]

theorem result_parse (codec : Codec) (text : Text) :
    (codec.parse text).result = Arguments.read codec.names (Text.trim text) := by
  cases h : codec.recent.get? (Text.trim text) with
  | none => rw [parse_of_get?_eq_none h]
  | some reading =>
      rw [parse_of_get?_eq_some h]
      exact Memo.eq_of_get?_eq_some h

@[simp] theorem callee_parse (codec : Codec) (text : Text) :
    (codec.parse text).codec.callee = codec.callee := by
  cases h : codec.recent.get? (Text.trim text) with
  | none => rw [parse_of_get?_eq_none h]
  | some reading => rw [parse_of_get?_eq_some h]

@[simp] theorem names_parse (codec : Codec) (text : Text) :
    (codec.parse text).codec.names = codec.names := by
  cases h : codec.recent.get? (Text.trim text) with
  | none => rw [parse_of_get?_eq_none h]
  | some reading => rw [parse_of_get?_eq_some h]

def hexLiteral (digits : Text) : Text := '"' :: digits ++ ['"']

/-- The argument text of a color in its own notation. A triple has no room for alpha, and a name is
written as a hexadecimal color, because an edited color has no name. -/
def formatArguments (color : Color) : Text :=
  match color.encoding with
  | .triple => channelList [color.red, color.green, color.blue]
  | .quad => channelList [color.red, color.green, color.blue, color.alpha]
  | .hex =>
      if color.isOpaque then hexLiteral color.hex
      else hexLiteral (color.hex ++ Text.hexByte color.alpha)
  | .named => hexLiteral color.hex

def format (codec : Codec) (color : Color) : Text :=
  codec.callee ++ '(' :: formatArguments color ++ [')']

def summary (codec : Codec) : Text :=
  "Codec \x7b constructor: " ++ Text.quoted codec.callee ++ ", named: " ++
    Text.decimal codec.names.size ++ ", .. \x7d"

end Codec

end ColorCalls
