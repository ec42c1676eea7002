import ColorCalls.Log.Moment
import ColorCalls.Text.Letters
import ColorCalls.Text.Numeral
import ColorCalls.Text.Split

/-! Descriptions of how a time is written: literal text and components between brackets, such as
`[hour]:[minute]` or `[subsecond digits:3]`. A backslash escapes a bracket or itself. Groups have
descriptions of their own between brackets, such as `[optional [:[second]]]`. A faulty one ends its
group, and reading goes on behind the fault. -/

namespace ColorCalls

inductive Padding where
  | zero
  | space
  | none
  deriving DecidableEq, Repr

inductive YearPart where
  | full
  | century
  | lastTwo
  deriving DecidableEq, Repr

inductive NameStyle where
  | number
  | long
  | short
  deriving DecidableEq, Repr

inductive WeekStart where
  | monday
  | sunday
  deriving DecidableEq, Repr

inductive TimeComponent where
  | year (padding : Padding) (part : YearPart) (isoWeek mandatorySign : Bool)
  | month (padding : Padding) (style : NameStyle)
  | day (padding : Padding)
  | dayOfYear (padding : Padding)
  | weekday (style : NameStyle) (start : WeekStart) (fromOne : Bool)
  /-- The week of the ISO calendar, or the one counted from the first given weekday. -/
  | week (padding : Padding) (start : Option WeekStart)
  | hour (padding : Padding) (twelve : Bool)
  | minute (padding : Padding)
  | second (padding : Padding)
  | period (upper : Bool)
  | subsecond (digits : Option Nat)
  | offsetHour (padding : Padding) (mandatorySign : Bool)
  | offsetMinute (padding : Padding)
  | offsetSecond (padding : Padding)
  /-- Time since the beginning of 1970, in units of the given decimal place of a second. -/
  | epoch (digits : Nat) (mandatorySign : Bool)
  | nothing
  deriving DecidableEq, Repr

inductive TimeItem where
  | literal (text : Text)
  | component (c : TimeComponent)
  deriving DecidableEq, Repr

abbrev TimeFormat := List TimeItem

namespace TimeFormat

abbrev Modifiers := List (Text × Text)

/-- What the last modifier with a key chooses, the first choice if there is none with that key. No
modifier with the key may ask for anything but a choice. -/
def choice {α : Type} (modifiers : Modifiers) (key : Text) (choices : List (Text × α)) :
    Option α := do
  let chosen ← (modifiers.filter fun m => m.1 = key).mapM fun m =>
    (choices.find? fun c => c.1 = m.2).map Prod.snd
  match chosen.getLast? with
  | some value => value
  | none => choices.head?.map Prod.snd

def padding (modifiers : Modifiers) : Option Padding :=
  choice modifiers "padding" [("zero", .zero), ("space", .space), ("none", .none)]

def sign (modifiers : Modifiers) : Option Bool :=
  choice modifiers "sign" [("automatic", false), ("mandatory", true)]

/-- Names are written in one letter case, whichever is chosen; the choice still has to be one. -/
def caseSensitive (modifiers : Modifiers) : Option Bool :=
  choice modifiers "case_sensitive" [("true", true), ("false", false)]

def subsecondChoices : List (Text × Option Nat) :=
  ("1+", none) ::
    ([1, 2, 3, 4, 5, 6, 7, 8, 9] : List Nat).map fun n => (Text.decimal n, some n)

/-- Reads the width of something left out, which takes no room in a written time. The width has to
be given, and every width given has to be one of 1 to 65535. -/
def ignored (modifiers : Modifiers) : Option TimeComponent :=
  let isWidth (count : Text) := (Text.word? count).any fun n => 0 < n && n ≤ 65535
  if modifiers ≠ [] ∧ modifiers.all fun m => isWidth m.2 then some .nothing else none

def plain (component : Padding → TimeComponent) (modifiers : Modifiers) : Option TimeComponent :=
  (padding modifiers).map component

def components : List (Text × List Text × (Modifiers → Option TimeComponent)) :=
  [("day", ["padding"], plain .day),
    ("end", ["trailing_input"], fun m =>
      choice m "trailing_input" [("prohibit", .nothing), ("discard", .nothing)]),
    ("hour", ["padding", "repr"], fun m => do
      return .hour (← padding m) (← choice m "repr" [("24", false), ("12", true)])),
    ("ignore", ["count"], ignored),
    ("minute", ["padding"], plain .minute),
    ("month", ["padding", "repr", "case_sensitive"], fun m => do
      let _ ← caseSensitive m
      return .month (← padding m)
        (← choice m "repr" [("numerical", .number), ("long", .long), ("short", .short)])),
    ("offset_hour", ["sign", "padding"], fun m => do
      return .offsetHour (← padding m) (← sign m)),
    ("offset_minute", ["padding"], plain .offsetMinute),
    ("offset_second", ["padding"], plain .offsetSecond),
    ("ordinal", ["padding"], plain .dayOfYear),
    ("period", ["case", "case_sensitive"], fun m => do
      let _ ← caseSensitive m
      return .period (← choice m "case" [("upper", true), ("lower", false)])),
    ("second", ["padding"], plain .second),
    ("subsecond", ["digits"], fun m => (choice m "digits" subsecondChoices).map .subsecond),
    ("unix_timestamp", ["precision", "sign"], fun m => do
      let digits ← choice m "precision"
        [("second", 0), ("millisecond", 3), ("microsecond", 6), ("nanosecond", 9)]
      return .epoch digits (← sign m)),
    ("weekday", ["repr", "one_indexed", "case_sensitive"], fun m => do
      let _ ← caseSensitive m
      let (style, start) ← choice m "repr"
        [("long", (NameStyle.long, WeekStart.monday)), ("short", (.short, .monday)),
          ("sunday", (.number, .sunday)), ("monday", (.number, .monday))]
      return .weekday style start (← choice m "one_indexed" [("true", true), ("false", false)])),
    ("week_number", ["padding", "repr"], fun m => do
      return .week (← padding m)
        (← choice m "repr" [("iso", none), ("sunday", some .sunday), ("monday", some .monday)])),
    ("year", ["padding", "repr", "range", "base", "sign"], fun m => do
      let _ ← choice m "range" [("extended", ()), ("standard", ())]
      let part ← choice m "repr" [("full", .full), ("century", .century), ("last_two", .lastTwo)]
      let isoWeek ← choice m "base" [("calendar", false), ("iso_week", true)]
      return .year (← padding m) part isoWeek (← sign m))]

def component? (name : Text) (modifiers : Modifiers) : Option TimeComponent := do
  let (_, keys, build) ← components.find? fun entry => entry.1 = name
  if modifiers.all fun m => keys.any fun key => key = m.1 then build modifiers else none

/-- A part that may be left out when a time is read, and is always written. -/
def optional? (modifiers : Modifiers) (parts : List TimeFormat) : Option TimeFormat :=
  match parts with
  | [part] =>
      if modifiers.all fun m => m.1 = "format" then
        match choice modifiers "format" [("true", true), ("false", false)] with
        | some true => some part
        | _ => none
      else none
  | _ => none

/-- Parts that a time can be read by. The first of them is written. -/
def first? (modifiers : Modifiers) (parts : List TimeFormat) : Option TimeFormat :=
  if modifiers = [] then some (parts.headD []) else none

def bracketed? (name : Text) (modifiers : Modifiers) (parts : List TimeFormat) :
    Option TimeFormat :=
  if name = "optional" then optional? modifiers parts
  else if name = "first" then first? modifiers parts
  else if parts = [] then (component? name modifiers).map fun c => [.component c]
  else none

def modifier? (word : Text) : Option (Text × Text) := do
  let (key, value) ← Text.splitFirst? ':' word
  if key = [] ∨ value = [] then none
  return (Text.lower key, Text.lower value)

def isGap (c : Char) : Bool := c = ' ' || c = '\t' || c = '\n' || c = '\r' || c = '\x0c'

def isEscapable (c : Char) : Bool := c = '\\' || c = '[' || c = ']'

def word? (t : Text) : Option (Text × Text) :=
  match t with
  | '\\' :: c :: r => if isEscapable c then some ([c], r) else none
  | _ =>
      match t.span fun c => !isGap c && !isEscapable c with
      | ([], _) => none
      | (word, rest) => some (word, rest)

/-- What was read, if it was read without a fault, and the text behind it or behind the fault. -/
structure Progress (α : Type) where
  found : Option α
  rest : Text

def modifiers (fuel : Nat) (t : Text) : Progress Modifiers :=
  match fuel with
  | 0 => ⟨none, t⟩
  | fuel + 1 =>
      if t.head?.any isGap then
        let r := t.dropWhile isGap
        match word? r with
        | none => ⟨some [], r⟩
        | some (word, r) =>
            match modifier? word with
            | none => ⟨none, r⟩
            | some m =>
                let more := modifiers fuel r
                ⟨more.found.map fun ms => m :: ms, more.rest⟩
      else ⟨some [], t⟩

def consLiteral (c : Char) : List TimeItem → List TimeItem
  | .literal text :: items => .literal (c :: text) :: items
  | items => .literal [c] :: items

mutual

def items (fuel depth : Nat) (nested : Bool) (t : Text) : Progress TimeFormat :=
  match fuel with
  | 0 => ⟨none, t⟩
  | fuel + 1 =>
      match t with
      | [] => ⟨some [], []⟩
      | '\\' :: c :: r =>
          if isEscapable c then
            let after := items fuel depth nested r
            ⟨after.found.map (consLiteral c), after.rest⟩
          else ⟨none, r⟩
      | ['\\'] => ⟨none, []⟩
      | '[' :: r =>
          let inside := bracket fuel depth r
          match inside.found with
          | none => inside
          | some first =>
              let after := items fuel depth nested inside.rest
              ⟨after.found.map (first ++ ·), after.rest⟩
      | c :: r =>
          if nested && c = ']' then ⟨some [], c :: r⟩
          else
            let after := items fuel depth nested r
            ⟨after.found.map (consLiteral c), after.rest⟩

def bracket (fuel depth : Nat) (t : Text) : Progress TimeFormat :=
  match fuel with
  | 0 => ⟨none, t⟩
  | fuel + 1 =>
      let t := t.dropWhile isGap
      match word? t with
      | none => ⟨none, t⟩
      | some (name, r) =>
          let ms := modifiers r.length.succ r
          match ms.found with
          | none => ⟨none, ms.rest⟩
          | some found =>
              match parts fuel depth ms.rest with
              | (inside, ']' :: rest) => ⟨bracketed? (Text.lower name) found inside, rest⟩
              | (_, rest) => ⟨none, rest⟩

def parts (fuel depth : Nat) (t : Text) : List TimeFormat × Text :=
  match fuel, depth with
  | fuel + 1, depth + 1 =>
      match t with
      | '[' :: r =>
          let inside := items fuel depth true r
          match inside.found, inside.rest with
          | some part, ']' :: r =>
              let (more, rest) := parts fuel (depth + 1) (r.dropWhile isGap)
              (part :: more, rest)
          | _, rest => ([], rest)
      | _ => ([], t)
  | _, _ => ([], t)

end

def deepest : Nat := 127

/-- The format that a description asks for. Each step of the reader takes a character, or looks into
a bracket it has just taken. -/
def ofText? (t : Text) : Option TimeFormat := (items (2 * t.length + 2) deepest false t).found

def padded (padding : Padding) (width n : Nat) : Text :=
  let digits := Text.decimal n
  match padding with
  | .zero => List.replicate (width - digits.length) '0' ++ digits
  | .space => List.replicate (width - digits.length) ' ' ++ digits
  | .none => digits

def signText (mandatory negative : Bool) : Text :=
  if negative then ['-'] else if mandatory then ['+'] else []

/-- The first digits of a second's fraction, or as many as it needs. -/
def fractionDigits (nanosecond : Nat) : Option Nat → Text
  | some digits => (padded .zero 9 nanosecond).take digits
  | none =>
      let all := padded .zero 9 nanosecond
      all.headD '0' :: (all.tail.reverse.dropWhile (· = '0')).reverse

def writeYear (m : Moment) (padding : Padding) (part : YearPart) (isoWeek mandatorySign : Bool) :
    Text :=
  let year := if isoWeek then m.isoWeek.1 else m.year
  match part with
  | .full => signText (mandatorySign || 9999 < year) false ++ padded padding 4 year
  | .century => signText mandatorySign false ++ padded padding 2 (year / 100)
  | .lastTwo => padded padding 2 (year % 100)

def daysFrom (m : Moment) : WeekStart → Nat
  | .monday => m.daysFromMonday
  | .sunday => m.daysFromSunday

def writeComponent (m : Moment) : TimeComponent → Text
  | .year padding part isoWeek mandatorySign => writeYear m padding part isoWeek mandatorySign
  | .month padding .number => padded padding 2 m.month
  | .month _ .long => m.monthName
  | .month _ .short => m.monthName.take 3
  | .day padding => padded padding 2 m.day
  | .dayOfYear padding => padded padding 3 m.dayOfYear
  | .weekday .number start fromOne =>
      Text.decimal (daysFrom m start + if fromOne then 1 else 0)
  | .weekday .long _ _ => m.weekdayName
  | .weekday .short _ _ => m.weekdayName.take 3
  | .week padding none => padded padding 2 m.isoWeek.2
  | .week padding (some start) => padded padding 2 ((m.dayOfYear + 6 - daysFrom m start) / 7)
  | .hour padding twelve =>
      padded padding 2 (if twelve then (m.hour + 11) % 12 + 1 else m.hour)
  | .minute padding => padded padding 2 m.minute
  | .second padding => padded padding 2 m.second
  | .period true => if m.hour < 12 then "AM" else "PM"
  | .period false => if m.hour < 12 then "am" else "pm"
  | .subsecond digits => fractionDigits m.nanosecond digits
  | .offsetHour padding mandatorySign =>
      signText mandatorySign (m.offset < 0) ++ padded padding 2 (m.offset.natAbs / 3600)
  | .offsetMinute padding => padded padding 2 (m.offset.natAbs / 60 % 60)
  | .offsetSecond padding => padded padding 2 (m.offset.natAbs % 60)
  | .epoch digits mandatorySign =>
      let n := m.epochNanoseconds / (Nat.pow 10 (9 - digits) : Nat)
      signText mandatorySign (n < 0) ++ Text.decimal n.natAbs
  | .nothing => []

def writeItem (m : Moment) : TimeItem → Text
  | .literal text => text
  | .component c => writeComponent m c

def write (format : TimeFormat) (m : Moment) : Text := format.flatMap (writeItem m)

def clock : TimeFormat :=
  [.component (.hour .zero false), .literal [':'], .component (.minute .zero), .literal [':'],
    .component (.second .zero)]

end TimeFormat

end ColorCalls
