import ColorCalls.Program
import ColorCalls.Proofs.Invocation.Items

namespace ColorCalls

theorem Swatch.detect_eq_off {env : Environment} {isTerminal : Bool}
    (h : (env "NO_COLOR").getD [] ≠ [] ∨ isTerminal = false) : detect env isTerminal = .off := by
  have hoff : (decide ((env "NO_COLOR").getD [] ≠ []) || !isTerminal) = true := by
    rcases h with h | rfl
    · rw [decide_eq_true h, Bool.true_or]
    · rw [Bool.not_false, Bool.or_true]
  rw [detect, if_pos hoff]

/-- The outcomes differ in their diagnostics at most. -/
structure Outcome.SameResult (o o' : Outcome) : Prop where
  status : o'.status = o.status
  output : o'.output = o.output
  files : o'.files = o.files
  write : o'.write = o.write

theorem Outcome.SameResult.refl (o : Outcome) : o.SameResult o := ⟨rfl, rfl, rfl, rfl⟩

namespace Session

/-- The sessions differ at most in valid values of `--log-level`, and in whether the diagnostics go
to a terminal. -/
structure SameButLogLevels (session session' : Session) : Prop where
  arguments : Invocation.SameButLogLevels session.arguments session'.arguments
  environment : session'.environment = session.environment
  input : session'.input = session.input
  files : session'.files = session.files
  outputIsTerminal : session'.outputIsTerminal = session.outputIsTerminal
  patternFault : session'.patternFault = session.patternFault
  cells : session'.cells = session.cells

def swatchVariables : List Text := ["TERM", "COLORTERM", "QCOLOR_LENS_SWATCH_WIDTH"]

/-- The sessions differ at most in how color samples are painted, and in whether the diagnostics go
to a terminal. -/
structure SameButSwatches (session session' : Session) : Prop where
  arguments : session'.arguments = session.arguments
  environment : ∀ name, name ∉ swatchVariables →
    session'.environment name = session.environment name
  input : session'.input = session.input
  files : session'.files = session.files
  outputIsTerminal : session'.outputIsTerminal = session.outputIsTerminal
  patternFault : session'.patternFault = session.patternFault
  cells : session'.cells = session.cells

/-- Color samples are out of place in the output, or turned off. -/
def Unpainted (session : Session) : Prop :=
  session.outputIsTerminal = false ∨
    (∃ value, session.environment "NO_COLOR" = some value ∧ value ≠ []) ∨
    .switch .noSwatch ∈ Invocation.items session.arguments

def swatchMode (session : Session) (invocation : Invocation) : Swatch.Mode :=
  if invocation.swatch then Swatch.detect session.environment session.outputIsTerminal else .off

variable {session session' : Session} {invocation : Invocation}

theorem swatchMode_of_unpainted (h : session.Unpainted)
    (hunderstood : Invocation.ofArguments session.arguments = .ok invocation) :
    session.swatchMode invocation = .off := by
  have hdetect (hoff : (session.environment "NO_COLOR").getD [] ≠ [] ∨
      session.outputIsTerminal = false) : session.swatchMode invocation = .off := by
    rw [swatchMode, Swatch.detect_eq_off hoff, ite_self]
  rcases h with hterminal | ⟨value, hvalue, hne⟩ | hswitch
  · exact hdetect (.inr hterminal)
  · exact hdetect (.inl (by rwa [hvalue]))
  · rw [swatchMode, Invocation.swatch_of_noSwatch_mem_items hswitch hunderstood]
    rfl

theorem SameButSwatches.unpainted (h : session.SameButSwatches session') (hu : session.Unpainted) :
    session'.Unpainted := by
  rw [Unpainted, h.outputIsTerminal, h.arguments, h.environment "NO_COLOR" (by decide)]
  exact hu

end Session

theorem Settings.exists_ofEnvironment_eq {env env' : Environment}
    (h : ∀ name, name ∉ Session.swatchVariables → env' name = env name) :
    ∃ width, (ofEnvironment env').1 = { (ofEnvironment env).1 with swatchWidth := width } := by
  refine ⟨(ofEnvironment env').1.swatchWidth, ?_⟩
  simp only [ofEnvironment, h "QCOLOR_LENS_ENABLED" (by decide),
    h "QCOLOR_LENS_CONSTRUCTOR" (by decide), h "QCOLOR_LENS_COLUMNS" (by decide),
    h "QCOLOR_LENS_PROMOTE_ALPHA" (by decide), h "QCOLOR_LENS_NAMED" (by decide)]

theorem Listing.render_off (rows : List Row) (width width' : Nat) (cells : Text → Nat) :
    render rows .off width cells = render rows .off width' cells := rfl

namespace Program

variable {session session' : Session}

theorem runInvocation_of_sameButLogLevels (h : session.SameButLogLevels session')
    {invocation invocation' : Invocation}
    (hinvocation : invocation.withoutLogLevel = invocation'.withoutLogLevel) :
    runInvocation session' invocation' = runInvocation session invocation := by
  obtain ⟨arguments, environment, input, files, outputIsTerminal, onTerminal, patternFault,
    cells⟩ := session
  obtain ⟨-, rfl, rfl, rfl, rfl, rfl, rfl⟩ := h
  change runInvocation _ invocation'.withoutLogLevel = runInvocation _ invocation.withoutLogLevel
  rw [hinvocation]
  rfl

theorem run_of_sameButLogLevels (h : session.SameButLogLevels session') :
    run session' = run session := by
  have hread := Invocation.ofArguments_of_sameButLogLevels h.arguments
  rw [run, run, h.files]
  cases hunderstood : Invocation.ofArguments session.arguments with
  | error e =>
      cases hunderstood' : Invocation.ofArguments session'.arguments with
      | error e' =>
          rw [hunderstood, hunderstood'] at hread
          cases hread
          rfl
      | ok invocation' =>
          rw [hunderstood, hunderstood'] at hread
          contradiction
  | ok invocation =>
      cases hunderstood' : Invocation.ofArguments session'.arguments with
      | error e' =>
          rw [hunderstood, hunderstood'] at hread
          contradiction
      | ok invocation' =>
          rw [hunderstood, hunderstood'] at hread
          exact runInvocation_of_sameButLogLevels h (Except.ok.inj hread)

theorem sameResult_runCommand {invocation : Invocation} (h : session.SameButSwatches session')
    (hoff : session.swatchMode invocation = .off) (hoff' : session'.swatchMode invocation = .off)
    (settings : Settings) (width : Nat) :
    (runCommand session invocation settings).SameResult
      (runCommand session' invocation { settings with swatchWidth := width }) := by
  obtain ⟨arguments, environment, input, files, outputIsTerminal, onTerminal, patternFault,
    cells⟩ := session
  obtain ⟨rfl, -, rfl, rfl, rfl, rfl, rfl⟩ := h
  rw [runCommand, runCommand]
  cases invocation.command with
  | none => exact .refl _
  | some command =>
      cases command with
      | set target => exact .refl _
      | scan given =>
          rw [Session.swatchMode] at hoff hoff'
          simp only [runScan, hoff, hoff']
          exact ⟨rfl, Listing.render_off _ _ _ _, rfl, rfl⟩

theorem sameResult_runInvocation {invocation : Invocation} (h : session.SameButSwatches session')
    (hoff : session.swatchMode invocation = .off)
    (hoff' : session'.swatchMode invocation = .off) :
    (runInvocation session invocation).SameResult (runInvocation session' invocation) := by
  obtain ⟨width, hwidth⟩ := Settings.exists_ofEnvironment_eq h.environment
  have hsettings : invocation.applyTo (Settings.ofEnvironment session'.environment).1 =
      { invocation.applyTo (Settings.ofEnvironment session.environment).1 with
        swatchWidth := width } := by
    rw [hwidth]
    rfl
  simp only [runInvocation, hsettings, h.files, h.patternFault]
  split
  · exact .refl _
  · split
    · split
      · obtain ⟨hstatus, houtput, hfiles, hwrite⟩ := sameResult_runCommand h hoff hoff'
          (invocation.applyTo (Settings.ofEnvironment session.environment).1) width
        exact ⟨hstatus, houtput, hfiles, hwrite⟩
      · exact ⟨rfl, rfl, rfl, rfl⟩
    · exact ⟨rfl, rfl, rfl, rfl⟩

theorem sameResult_run_of_unpainted (h : session.SameButSwatches session')
    (hunpainted : session.Unpainted) : (run session).SameResult (run session') := by
  rw [run, run, h.arguments, h.files]
  cases hunderstood : Invocation.ofArguments session.arguments with
  | error e => exact .refl _
  | ok invocation =>
      have hunderstood' : Invocation.ofArguments session'.arguments = .ok invocation := by
        rw [h.arguments, hunderstood]
      exact sameResult_runInvocation h (Session.swatchMode_of_unpainted hunpainted hunderstood)
        (Session.swatchMode_of_unpainted (h.unpainted hunpainted) hunderstood')

/-- Two runs have the same result if they differ only in valid values of `--log-level`. So have two
that differ only in how color samples are painted, unless they paint some. -/
theorem result_independent_of_logging_and_terminal (session session' : Session) :
    (session.SameButLogLevels session' → (run session).SameResult (run session')) ∧
    (session.SameButSwatches session' → session.Unpainted →
      (run session).SameResult (run session')) := by
  constructor
  · intro h
    rw [run_of_sameButLogLevels h]
    exact .refl _
  · exact sameResult_run_of_unpainted

theorem result_of_colorless_run_in_two_terminals :
    let session (level terminal width : Text) : Session :=
      { arguments := ["--log-level", level, "scan", "a.py"]
        environment := fun name =>
          if name = "NO_COLOR" then some "1"
          else if name = "TERM" then some terminal
          else if name = "QCOLOR_LENS_SWATCH_WIDTH" then some width
          else none
        input := .empty
        files := { files := [("a.py", encodeText "QColor(1,2,3)")], resolve := .ok }
        outputIsTerminal := true }
    (run (session "off" "xterm" "4")).SameResult (run (session " Trace" "xterm" "4")) ∧
      (run (session "off" "xterm" "4")).SameResult (run (session "off" "dumb" "wide")) := by
  intro session
  obtain ⟨hlevels, -⟩ := result_independent_of_logging_and_terminal
    (session "off" "xterm" "4") (session " Trace" "xterm" "4")
  obtain ⟨-, hterminals⟩ := result_independent_of_logging_and_terminal
    (session "off" "xterm" "4") (session "off" "dumb" "wide")
  have harguments (level : Text) : Invocation.items ["--log-level", level, "scan", "a.py"] =
      [.option .logLevel level, .positional "scan", .positional "a.py"] := by
    rfl
  constructor
  · refine hlevels ⟨?_, rfl, rfl, rfl, rfl, rfl, rfl⟩
    rw [Invocation.SameButLogLevels, harguments, harguments]
    have hoff : Invocation.logFilter? "off" = some none := by decide
    have htrace : Invocation.logFilter? " Trace" = some (some .trace) := by decide
    exact .cons (.logLevel hoff htrace) (.cons (.same _) (.cons (.same _) .nil))
  · refine hterminals ⟨rfl, ?_, rfl, rfl, rfl, rfl, rfl⟩ (.inr (.inl ⟨"1", rfl, by decide⟩))
    intro name hname
    simp only [Session.swatchVariables, List.mem_cons, not_or] at hname
    obtain ⟨hterm, -, hwidth, -⟩ := hname
    simp only [session, hterm, hwidth, if_false]

end Program

end ColorCalls
