import ColorCalls.Log.Logger
import ColorCalls.Settings

/-! What a command line asks for. Arguments are taken from the left: switches, options with the
value after them, and positional arguments, which name the command and what it works on. -/

namespace ColorCalls

structure SetTarget where
  path : Text
  position : Position
  picked : PickedColor
  dryRun : Bool
  deriving DecidableEq, Repr

inductive Command where
  | scan (sources : List Text)
  | set (target : SetTarget)
  deriving DecidableEq, Repr

structure Invocation where
  help : Bool := false
  command : Option Command := none
  callee : Option Text := none
  columns : Option ColumnUnit := none
  swatch : Bool := true
  promoteAlpha : Bool := false
  logLevel : LevelFilter := none
  deriving DecidableEq

inductive UsageError where
  | missingValue (flag : Text)
  | blankCallee
  | invalidColumns (value : Text)
  | invalidLogLevel (value : Text)
  | unknownFlag (argument : Text)
  | dryRunWithoutSet
  | setArity (found : Nat)
  | unknownCommand (name : Text)
  | invalidPosition (value : Text)
  | rejectedColor (value : Text) (rejection : Rejection)
  | invalidColor (value : Text)
  | colorArity (value : Text) (found : Nat)
  deriving DecidableEq, Repr

def UsageError.message : UsageError → Text
  | .missingValue flag => "Missing value for `" ++ flag ++ "`."
  | .blankCallee => "Invalid --constructor value (expected a name)."
  | .invalidColumns value => ColumnUnit.invalid value
  | .invalidLogLevel value =>
      "Invalid --log-level value `" ++ value ++
        "` (expected: off|error|warn|info|debug|trace)."
  | .unknownFlag argument =>
      "Unknown flag: " ++ argument ++ "\n\nRun with `--help` to see valid options."
  | .dryRunWithoutSet => "`--dry-run` only applies to `set`."
  | .setArity found =>
      "`set` takes FILE LINE:COL COLOR (got " ++ Text.decimal found ++ " argument(s))."
  | .unknownCommand name =>
      "Unknown command `" ++ name ++
        "` (expected: scan|set).\n\nRun with `--help` to see usage."
  | .invalidPosition value =>
      "Invalid position `" ++ value ++ "` (expected LINE:COL, both >= 1)."
  | .rejectedColor value rejection =>
      "Invalid color `" ++ value ++ "`: " ++ rejection.message ++ "."
  | .invalidColor value => "Invalid color `" ++ value ++ "` (expected r,g,b[,a] or #hex)."
  | .colorArity value found =>
      "Invalid color `" ++ value ++ "` (expected 3 or 4 channels, got " ++
        Text.decimal found ++ ")."

namespace Invocation

/-- Reads `LINE:COL`, both counted from one, with white space around each. -/
def position (value : Text) : Except UsageError Position :=
  match Text.splitFirst? ':' value with
  | none => .error (.invalidPosition value)
  | some (line, column) =>
      match Text.word? (Text.trim line), Text.word? (Text.trim column) with
      | some (line + 1), some (column + 1) => .ok ⟨line, column⟩
      | _, _ => .error (.invalidPosition value)

/-- Reads three or four numbers between commas, or a hexadecimal color. Numbers out of the range of
a channel are taken as they are. -/
def color (value : Text) : Except UsageError PickedColor :=
  let value := Text.trim value
  if value.head? = some '#' then
    match Arguments.read .standard ('"' :: value ++ ['"']) with
    | .ok color => .ok (.ofChannels color.toChannels)
    | .error rejection => .error (.rejectedColor value rejection)
  else
    match (value.splitOn ',').mapM fun token => Binary64.ofText? (Text.trim token) with
    | none => .error (.invalidColor value)
    | some [r, g, b] => .ok ⟨r, g, b, .ofByte 255⟩
    | some [r, g, b, a] => .ok ⟨r, g, b, a⟩
    | some values => .error (.colorArity value values.length)

def logFilter? (value : Text) : Option LevelFilter :=
  let word := Text.lower (Text.trim value)
  if word = "off" ∨ word = "none" then some none
  else if word = "error" then some (some .error)
  else if word = "warn" ∨ word = "warning" then some (some .warn)
  else if word = "info" then some (some .info)
  else if word = "debug" then some (some .debug)
  else if word = "trace" then some (some .trace)
  else none

inductive Switch where
  | help
  | noSwatch
  | promoteAlpha
  | dryRun
  deriving DecidableEq, Repr

inductive ValuedFlag where
  | callee
  | columns
  | logLevel
  deriving DecidableEq, Repr

inductive Kind where
  | switch (s : Switch)
  | valued (f : ValuedFlag)
  | positional
  | unknown
  deriving DecidableEq, Repr

def kind (argument : Text) : Kind :=
  if argument = "-h" ∨ argument = "--help" then .switch .help
  else if argument = "--constructor" then .valued .callee
  else if argument = "--columns" then .valued .columns
  else if argument = "--no-swatch" then .switch .noSwatch
  else if argument = "--promote-alpha" then .switch .promoteAlpha
  else if argument = "--dry-run" then .switch .dryRun
  else if argument = "--log-level" then .valued .logLevel
  else if argument = "-" then .positional
  else if argument.head? = some '-' then .unknown
  else .positional

/-- What the arguments so far ask for, their positional ones not yet looked at. -/
structure Draft where
  invocation : Invocation := {}
  positionals : List Text := []
  dryRun : Bool := false

namespace Draft

def turn (d : Draft) : Switch → Draft
  | .help => { d with invocation.help := true }
  | .noSwatch => { d with invocation.swatch := false }
  | .promoteAlpha => { d with invocation.promoteAlpha := true }
  | .dryRun => { d with dryRun := true }

def assign (d : Draft) (value : Text) : ValuedFlag → Except UsageError Draft
  | .callee =>
      let callee := Text.trim value
      if callee = [] then .error .blankCallee
      else .ok { d with invocation.callee := some callee }
  | .columns =>
      match ColumnUnit.ofText? value with
      | some unit => .ok { d with invocation.columns := some unit }
      | none => .error (.invalidColumns value)
  | .logLevel =>
      match logFilter? value with
      | some filter => .ok { d with invocation.logLevel := filter }
      | none => .error (.invalidLogLevel value)

def push (d : Draft) (argument : Text) : Draft :=
  { d with positionals := d.positionals ++ [argument] }

def absorb (d : Draft) : List Text → Except UsageError Draft
  | [] => .ok d
  | argument :: rest =>
      match kind argument with
      | .switch s => (d.turn s).absorb rest
      | .valued f =>
          match rest with
          | [] => .error (.missingValue argument)
          | value :: rest =>
              match d.assign value f with
              | .ok d => d.absorb rest
              | .error e => .error e
      | .positional => (d.push argument).absorb rest
      | .unknown => .error (.unknownFlag argument)

def command (d : Draft) : Except UsageError (Option Command) :=
  match d.positionals with
  | [] => .ok none
  | name :: arguments =>
      if name = "scan" then
        if d.dryRun then .error .dryRunWithoutSet else .ok (some (.scan arguments))
      else if name = "set" then
        match arguments with
        | [path, positionText, colorText] => do
            let position ← position positionText
            let picked ← color colorText
            return some (.set ⟨path, position, picked, d.dryRun⟩)
        | _ => .error (.setArity arguments.length)
      else .error (.unknownCommand name)

/-- The finished invocation. A request for help makes every other argument idle. -/
def finish (d : Draft) : Except UsageError Invocation :=
  if d.invocation.help then .ok d.invocation
  else do
    let command ← d.command
    return { d.invocation with command := command }

end Draft

def ofArguments (arguments : List Text) : Except UsageError Invocation := do
  let draft ← Draft.absorb {} arguments
  draft.finish

def applyTo (invocation : Invocation) (s : Settings) : Settings :=
  { s with
    callee := invocation.callee.getD s.callee
    unit := invocation.columns.getD s.unit
    policy := if invocation.promoteAlpha then .promote else s.policy }

end Invocation

end ColorCalls
