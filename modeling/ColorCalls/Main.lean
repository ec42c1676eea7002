import ColorCalls.Program
import Std.Time.Format

/-! The program on a real machine: gathers what a run depends on, lets it run, and carries out what
it decided. -/

namespace ColorCalls.Machine

def variableNames : List String :=
  ["QCOLOR_LENS_ENABLED", "QCOLOR_LENS_CONSTRUCTOR", "QCOLOR_LENS_COLUMNS",
    "QCOLOR_LENS_SWATCH_WIDTH", "QCOLOR_LENS_PROMOTE_ALPHA", "QCOLOR_LENS_NAMED", "NO_COLOR",
    "COLORTERM", "TERM"]

def environment : IO Environment := do
  let values ← variableNames.filterMapM fun name => do
    return (← IO.getEnv name).map fun value => (name.toList, value.toList)
  return fun name => (values.find? fun v => v.1 = name).map Prod.snd

def fileError : IO.Error → FileError
  | .noFileOrDirectory .. => .notFound
  | .inappropriateType _ code _ => if code = 20 then .notADirectory else .isADirectory
  | .permissionDenied _ 13 _ => .permissionDenied
  | e => .system (toString e).toList

def files (arguments : List String) : IO FileStore := do
  let contents ← arguments.mapM fun (path : String) => do
    let content ← (IO.FS.readBinFile path).toBaseIO
    return (path.toList, content)
  let found := contents.filterMap fun (path, content) =>
    match content with
    | .ok bytes => some (path, bytes)
    | .error _ => none
  let resolve (path : Text) : Except FileError Text :=
    match contents.find? fun c => c.1 = path with
    | some (_, .ok _) => .ok path
    | some (_, .error e) => .error (fileError e)
    | none => .error .notFound
  return { files := found, resolve }

def now : IO Moment := do
  let time ← Std.Time.PlainDateTime.now
  return {
    year := time.date.year.toNat
    month := time.date.month.toNat
    day := time.date.day.toNat
    hour := time.time.hour.toNat
    minute := time.time.minute.toNat
    second := time.time.second.toNat
    nanosecond := time.time.nanosecond.toNat }

def readsInput (arguments : List Text) : Bool :=
  match Invocation.ofArguments arguments with
  | .ok { command := some (.scan sources), .. } =>
      sources.isEmpty || sources.contains Program.inputSource
  | _ => false

/-- Makes the write that a run decides on. If this fails, the run takes place in the session that is
returned, where it is known to fail. -/
def attemptWrite (session : Session) : IO Session := do
  let some (path, t) := (Program.run session).write | return session
  let target := String.ofList path
  match ← (IO.FS.writeBinFile target (encodeText t)).toBaseIO with
  | .ok () => return session
  | .error e =>
      let left := (← (IO.FS.readBinFile target).toBaseIO).toOption.getD .empty
      let fault : WriteFault := { error := fileError e, left }
      return { session with files := { session.files with writeFault := fun _ _ => some fault } }

end ColorCalls.Machine

open ColorCalls in
def main (arguments : List String) : IO UInt32 := do
  let texts := arguments.map String.toList
  let stdin ← IO.getStdin
  let stdout ← IO.getStdout
  let stderr ← IO.getStderr
  let input ← if Machine.readsInput texts then stdin.readBinToEnd else pure .empty
  let session : Session :=
    { arguments := texts
      environment := ← Machine.environment
      input := input
      files := ← Machine.files arguments
      outputIsTerminal := ← stdout.isTty
      diagnosticsAreOnTerminal := ← stderr.isTty }
  let session ← Machine.attemptWrite session
  let outcome := Program.run session
  stderr.putStr (String.ofList (Program.errorOutput session (← Machine.now)))
  stdout.putStr (String.ofList outcome.output)
  return .ofNat outcome.status
