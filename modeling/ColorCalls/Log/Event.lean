import ColorCalls.Log.Logger

namespace ColorCalls

inductive FieldValue where
  /-- Text that was formatted before and stands as it is. -/
  | formatted (text : Text)
  | string (text : Text)
  | integer (n : Int)
  | boolean (b : Bool)
  deriving DecidableEq, Repr

namespace FieldValue

/-- The text without the quote at either end, provided there is one at both. -/
def stripQuotes (t : Text) : Text :=
  match t with
  | '"' :: rest => if rest.getLast? = some '"' then rest.dropLast else t
  | _ => t

def render : FieldValue → Text
  | .formatted text => stripQuotes text
  | .string text => stripQuotes (Text.quoted text)
  | .integer n => (if n < 0 then ['-'] else []) ++ Text.decimal n.natAbs
  | .boolean b => if b then "true" else "false"

end FieldValue

structure Event where
  level : Level
  target : Text
  message : Option FieldValue := none
  fields : List (Text × FieldValue) := []
  deriving DecidableEq, Repr

namespace Event

def fieldText (e : Event) : Text :=
  [' '].intercalate (e.fields.map fun (name, value) => name ++ '=' :: value.render)

def text (e : Event) : Text :=
  let message := (e.message.map FieldValue.render).getD []
  if e.fields = [] then message
  else if message = [] then e.fieldText
  else message ++ ' ' :: e.fieldText

def record (e : Event) : Record := ⟨e.level, e.target, e.text⟩

/-- What an event adds to the output, and the time that is compared with next. Events are dropped
here by the urgency of the least urgent level let through; the logger is not asked. -/
def write (logger : Logger) (last : Option Text) (time : Text) (e : Event) :
    Text × Option Text :=
  if logger.filter.rank < e.level.rank then ([], last)
  else (logger.line last time e.record ++ ['\n'], logger.remembered last time)

def writeAll (logger : Logger) : Option Text → List (Text × Event) → List Text
  | _, [] => []
  | last, (time, e) :: events =>
      let (text, last) := write logger last time e
      text :: writeAll logger last events

end Event

end ColorCalls
