import ColorCalls.Log.TimeFormat
import ColorCalls.Notice
import ColorCalls.Terminal

/-! Writing records as lines: the time, the level in a column of five characters, the message and,
if asked for, the target. A time equal to the one written before it can be left blank. -/

namespace ColorCalls

/-- Which records are let through: those up to a level, or none at all. -/
abbrev LevelFilter := Option Level

namespace LevelFilter

def allows (filter : LevelFilter) (level : Level) : Bool :=
  filter.any fun limit => level.rank ≤ limit.rank

def rank (filter : LevelFilter) : Nat := (filter.map Level.rank).getD 0

theorem allows_iff (filter : LevelFilter) (level : Level) :
    filter.allows level ↔ level.rank ≤ filter.rank := by
  cases filter with
  | none => cases level <;> simp [allows, rank, Level.rank]
  | some limit => simp [allows, rank]

end LevelFilter

structure Logger where
  filter : LevelFilter := some .warn
  showTime : Bool := true
  omitRepeatedTimes : Bool := true
  showLevel : Bool := true
  showTarget : Bool := false
  color : Bool := false
  /-- Colors are written without their parameters, as a terminal user without colors asks for;
  bold and dim are kept. -/
  plainColors : Bool := false
  timeFormat : TimeFormat := TimeFormat.clock

namespace Logger

def withTimeFormat (logger : Logger) (description : Text) : Logger :=
  match TimeFormat.ofText? description with
  | some format => { logger with timeFormat := format }
  | none => logger

def enabled (logger : Logger) (level : Level) : Bool := logger.filter.allows level

def foreground? : Level → Option Nat
  | .error => some 9
  | .warn => some 11
  | .info => some 10
  | .debug => some 12
  | .trace => none

def attribute? : Level → Option Text
  | .error => some Terminal.bold
  | .warn | .info => none
  | .debug | .trace => some Terminal.dim

def paintedLevel (plainColors : Bool) (level : Level) (text : Text) : Text :=
  let sequence (parameters : Text) := Terminal.rendition (if plainColors then [] else parameters)
  let color := (foreground? level).map fun index => sequence (Terminal.paletteForeground index)
  let after := match attribute? level, color with
    | some _, _ => Terminal.reset
    | none, some _ => sequence Terminal.defaultForeground
    | none, none => []
  color.getD [] ++ (attribute? level).getD [] ++ text ++ after

def levelColumn (logger : Logger) (level : Level) : Text :=
  let text := Text.padTo List.length 5 level.name
  if logger.color then paintedLevel logger.plainColors level text else text

def timeColumn (logger : Logger) (last : Option Text) (time : Text) : Text :=
  if logger.omitRepeatedTimes && last == some time then List.replicate (Text.bytes time) ' '
  else time

def line (logger : Logger) (last : Option Text) (time : Text) (r : Record) : Text :=
  (if logger.showTime then logger.timeColumn last time ++ [' '] else []) ++
    (if logger.showLevel then logger.levelColumn r.level ++ [' '] else []) ++
    r.message ++
    if logger.showTarget && r.target ≠ [] then ' ' :: '[' :: r.target ++ [']'] else []

def remembered (logger : Logger) (last : Option Text) (time : Text) : Option Text :=
  if logger.showTime && logger.omitRepeatedTimes then some time else last

/-- What a record adds to the output, and the time that is compared with next. A record that is not
let through leaves both alone. -/
def write (logger : Logger) (last : Option Text) (time : Text) (r : Record) :
    Text × Option Text :=
  if logger.enabled r.level then
    (logger.line last time r ++ ['\n'], logger.remembered last time)
  else ([], last)

def writeAll (logger : Logger) : Option Text → List (Text × Record) → List Text
  | _, [] => []
  | last, (time, r) :: records =>
      let (text, last) := logger.write last time r
      text :: writeAll logger last records

end Logger

end ColorCalls
