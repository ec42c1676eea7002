import ColorCalls.FileStore
import ColorCalls.Invocation
import ColorCalls.Listing

/-! The whole program as a function of what it is given: arguments, environment, standard input,
files and terminals. Diagnostics are collected in the order in which they come; how many of them
are shown, and how, is decided at the end and changes nothing else. -/

namespace ColorCalls

structure Session where
  /-- The arguments after the program's name. -/
  arguments : List Text
  environment : Environment
  input : ByteArray
  files : FileStore
  outputIsTerminal : Bool := false
  diagnosticsAreOnTerminal : Bool := false
  /-- Why a callee is too much for a search pattern, if it is. -/
  patternFault : Text → Option Text := fun _ => none
  /-- How many cells a text fills in a terminal. -/
  cells : Text → Nat := Text.cells

/-- Records for the log, and complaints that are shown whatever the log level is. -/
inductive Diagnostic where
  | notice (n : Notice)
  | complaint (t : Text)
  deriving DecidableEq, Repr

structure Outcome where
  status : Nat
  output : Text := []
  diagnostics : List Diagnostic := []
  files : FileStore
  /-- The path that was written to, successfully or not, and the text. -/
  write : Option (Text × Text) := none

namespace Program

def helpText : Text :=
  "qcolor-lens: find and edit QColor(...) literals

USAGE:
    qcolor-lens scan [FILE...] [OPTIONS]
    qcolor-lens set FILE LINE:COL COLOR [--dry-run] [OPTIONS]

COMMANDS:
    scan                        List every decodable call (stdin when no FILE or `-`)
    set                         Rewrite the call under LINE:COL (1-based) with COLOR

COLOR:
    r,g,b[,a]                   Channel values; out-of-range values are clamped
    #rgb #rgba #rrggbb #rrggbbaa

OPTIONS:
    --constructor <name>        Constructor to look for (default: QColor)
    --columns <unit>            Column unit: byte|char|utf16 (default: utf16)
    --no-swatch                 Do not paint color samples
    --promote-alpha             Keep edited alpha by switching rgb->rgba, named->hex
    --dry-run                   Print the edited text instead of writing the file
    --log-level <level>         Diagnostics on stderr (off|error|warn|info|debug|trace)
    -h, --help                  Print help and exit

ENVIRONMENT:
    QCOLOR_LENS_ENABLED, QCOLOR_LENS_CONSTRUCTOR, QCOLOR_LENS_COLUMNS,
    QCOLOR_LENS_SWATCH_WIDTH, QCOLOR_LENS_PROMOTE_ALPHA, QCOLOR_LENS_NAMED

EXIT STATUS:
    0 success, 1 runtime failure, 2 usage error
"

def missingCommand : Text := "Missing command.\n\nRun with `--help` to see usage."

def invalidCallee (callee fault : Text) : Text :=
  "Invalid constructor name `" ++ callee ++ "`: " ++ fault

def inputSource : Text := "-"

def inputLabel : Text := "<stdin>"

def label (source : Text) : Text := if source = inputSource then inputLabel else source

structure Listed where
  locator : Locator
  input : ByteArray
  rows : List Listing.Row := []
  failed : Bool := false
  diagnostics : List Diagnostic := []

def readSource (files : FileStore) (input : ByteArray) (source : Text) :
    Except FileError Text × ByteArray :=
  if source = inputSource then (readText input, .empty) else (files.read source, input)

def Listed.source (listed : Listed) (files : FileStore) (source : Text) : Listed :=
  let (content, input) := readSource files listed.input source
  match content with
  | .ok t =>
      let scan := listed.locator.findAll t
      let notices := scan.notices ++ [.sourceScanned (label source) scan.found.length]
      { listed with
        locator := scan.locator
        input := input
        rows := listed.rows ++ scan.found.map (Listing.Row.ofCall (label source))
        diagnostics := listed.diagnostics ++ notices.map .notice }
  | .error e =>
      { listed with
        input := input
        failed := true
        diagnostics := listed.diagnostics ++ [.complaint (source ++ ": " ++ e.message)] }

def sourcesOf (given : List Text) : List Text := if given = [] then [inputSource] else given

def listing (session : Session) (settings : Settings) (given : List Text) : Listed :=
  (sourcesOf given).foldl (fun listed source => listed.source session.files source)
    { locator := settings.locator, input := session.input }

def runScan (session : Session) (invocation : Invocation) (settings : Settings)
    (given : List Text) : Outcome :=
  let mode :=
    if invocation.swatch then Swatch.detect session.environment session.outputIsTerminal else .off
  let listed := listing session settings given
  { status := if listed.failed then 1 else 0
    output := Listing.render listed.rows mode settings.swatchWidth session.cells
    diagnostics := listed.diagnostics
    files := session.files }

def report (path : Text) (r : Replacement) : Text :=
  path ++ ':' :: r.span.startPosition.display ++ "  " ++ r.expected ++ " -> " ++ r.text ++ ['\n']

def runSet (session : Session) (settings : Settings) (target : SetTarget) : Outcome :=
  let failure (diagnostics : List Diagnostic) (t : Text) : Outcome :=
    { status := 1, diagnostics := diagnostics ++ [.complaint t], files := session.files }
  match session.files.read target.path with
  | .error e => failure [] (target.path ++ ": " ++ e.message)
  | .ok t =>
      let scan := settings.locator.findAll t
      let scanned := scan.notices.map Diagnostic.notice
      match callAt? scan.found target.position with
      | none => failure scanned (EditError.noColorAt target.position).message
      | some call =>
          let plan := planEdit settings.codec call target.picked settings.policy
          let planned := scanned ++ [.notice plan.notice]
          match plan.apply t with
          | .error e => failure planned (target.path ++ ": " ++ e.message)
          | .ok updated =>
              if target.dryRun then
                { status := 0, output := updated, diagnostics := planned, files := session.files }
              else
                let (written, files) := session.files.write target.path updated
                let write := some (target.path, updated)
                match written with
                | .error e =>
                    { failure planned (target.path ++ ": " ++ e.message) with files, write }
                | .ok () =>
                    { status := 0
                      output := report target.path plan
                      diagnostics := planned
                      files, write }

def runCommand (session : Session) (invocation : Invocation) (settings : Settings) : Outcome :=
  match invocation.command with
  | none =>
      { status := 2, diagnostics := [.complaint missingCommand], files := session.files }
  | some (.scan sources) => runScan session invocation settings sources
  | some (.set target) => runSet session settings target

def runInvocation (session : Session) (invocation : Invocation) : Outcome :=
  if invocation.help then { status := 0, output := helpText, files := session.files }
  else
    let (fromEnvironment, notices) := Settings.ofEnvironment session.environment
    let settings := invocation.applyTo fromEnvironment
    let outcome :=
      if settings.enabled then
        match session.patternFault settings.callee with
        | none => runCommand session invocation settings
        | some fault =>
            { status := 1
              diagnostics := [.complaint (invalidCallee settings.callee fault)]
              files := session.files }
      else { status := 0, diagnostics := [.notice .switchedOff], files := session.files }
    { outcome with diagnostics := notices.map .notice ++ outcome.diagnostics }

def run (session : Session) : Outcome :=
  match Invocation.ofArguments session.arguments with
  | .error e => { status := 2, diagnostics := [.complaint e.message], files := session.files }
  | .ok invocation => runInvocation session invocation

def logger (session : Session) (filter : LevelFilter) : Logger where
  filter := filter
  color := session.diagnosticsAreOnTerminal
  plainColors := ((session.environment "NO_COLOR").getD []) ≠ []

/-- The level that the arguments ask for; none when they were not understood. -/
def logLevel (session : Session) : LevelFilter :=
  match Invocation.ofArguments session.arguments with
  | .ok invocation => invocation.logLevel
  | .error _ => none

def renderDiagnostics (logger : Logger) (time : Text) : Option Text → List Diagnostic → Text
  | _, [] => []
  | last, .complaint t :: rest => t ++ '\n' :: renderDiagnostics logger time last rest
  | last, .notice n :: rest =>
      let (text, last) := logger.write last time n.record
      text ++ renderDiagnostics logger time last rest

def errorOutput (session : Session) (now : Moment) : Text :=
  let logger := logger session (logLevel session)
  renderDiagnostics logger (logger.timeFormat.write now) none (run session).diagnostics

end Program

end ColorCalls
