import ColorCalls.Program
import ColorCalls.Proofs.Arguments
import ColorCalls.Proofs.FileStore
import ColorCalls.Proofs.Invocation.DryRun
import ColorCalls.Proofs.Program.FreshEdit

/-! What a run does to the files. Only a run that sets a color can change one, and only by a
completed edit of its target (`run_changes_files_by_one_edit`). Everything a run needs to know about
its edit is in one function, `edited?`, on which the switch `--dry-run` has no influence. -/

namespace ColorCalls

namespace Session

def settings (session : Session) (invocation : Invocation) : Settings :=
  invocation.applyTo (Settings.ofEnvironment session.environment).1

structure Sets (session : Session) (invocation : Invocation) (target : SetTarget) : Prop where
  understood : Invocation.ofArguments session.arguments = .ok invocation
  noHelp : invocation.help = false
  command : invocation.command = some (.set target)
  enabled : (session.settings invocation).enabled = true

/-- The text that the edit leaves, if the target can be read and edited. -/
def edited? (session : Session) (settings : Settings) (target : SetTarget) : Option Text :=
  match session.patternFault settings.callee, session.files.read target.path with
  | none, .ok t =>
      (editAt settings.locator t target.position target.picked settings.policy).toOption
  | _, _ => none

def withoutDryRun (session : Session) : Session :=
  { session with arguments := Invocation.argumentsWithoutDryRun session.arguments }

end Session

namespace Program

variable {session : Session} {settings : Settings} {invocation : Invocation} {target : SetTarget}

theorem edited?_eq_some_iff {new : Text} :
    session.edited? settings target = some new ↔
      session.patternFault settings.callee = none ∧
      ∃ old, session.files.read target.path = .ok old ∧
        editAt settings.locator old target.position target.picked settings.policy = .ok new := by
  rw [Session.edited?]
  cases session.patternFault settings.callee with
  | some fault => simp
  | none =>
      cases session.files.read target.path with
      | error e => simp
      | ok old =>
          generalize hresult : editAt settings.locator old target.position target.picked
            settings.policy = result
          cases result with
          | error e => simp [hresult, Except.toOption]
          | ok t => simp [hresult, Except.toOption]

/-- The outcome of a run that has an edited text: a dry run shows the text, and another one writes
it. -/
structure Completes (session : Session) (target : SetTarget) (new : Text) (outcome : Outcome) :
    Prop where
  dry : target.dryRun = true →
    outcome.status = 0 ∧ outcome.files = session.files ∧ outcome.output = new
  wet : target.dryRun = false →
    (outcome.status = 0 ↔ (session.files.write target.path new).1 = .ok ()) ∧
      outcome.files = (session.files.write target.path new).2

theorem edited?_of_rewritten {t new : Text} {call : ColorCall}
    (hpattern : session.patternFault settings.callee = none)
    (hread : session.files.read target.path = .ok t)
    (hfirst : FirstTouched (settings.locator.findAll t).found target.position call)
    (hnew : call.Rewritten settings.codec target.picked settings.policy t new) :
    session.edited? settings target = some new := by
  have hedit := editAt_eq_ok_iff.mpr ⟨call, hfirst, hnew⟩
  exact edited?_eq_some_iff.mpr ⟨hpattern, t, hread, hedit⟩

theorem runSet_cases (hpattern : session.patternFault settings.callee = none)
    (target : SetTarget) :
    (session.edited? settings target = none ∧
        (runSet session settings target).status = 1 ∧
        (runSet session settings target).files = session.files) ∨
      ∃ new, session.edited? settings target = some new ∧
        Completes session target new (runSet session settings target) := by
  have hends := setEnds_runSet session settings target
  generalize runSet session settings target = outcome at hends ⊢
  cases hends with
  | unreadable hread =>
      refine Or.inl ⟨?_, rfl, rfl⟩
      rw [Session.edited?, hpattern, hread]
  | missed hread hmissed =>
      refine Or.inl ⟨?_, rfl, rfl⟩
      simp only [Session.edited?, hpattern, hread, editAt, callAt?_eq_none_iff.mpr hmissed]
      rfl
  | shown hread hfirst hnew hdryRun =>
      refine Or.inr ⟨_, edited?_of_rewritten hpattern hread hfirst hnew, ?_, ?_⟩
      · exact fun _ => ⟨rfl, rfl, rfl⟩
      · exact fun hwet => absurd hwet (by simp [hdryRun])
  | written hread hfirst hnew hdryRun hwrite =>
      refine Or.inr ⟨_, edited?_of_rewritten hpattern hread hfirst hnew, ?_, fun _ => ?_⟩
      · exact fun hdry => absurd hdry (by simp [hdryRun])
      · rw [hwrite]
        exact ⟨iff_of_true rfl rfl, rfl⟩
  | refused hread hfirst hnew hdryRun hwrite =>
      refine Or.inr ⟨_, edited?_of_rewritten hpattern hread hfirst hnew, ?_, fun _ => ?_⟩
      · exact fun hdry => absurd hdry (by simp [hdryRun])
      · rw [hwrite]
        simp

theorem run_of_sets (h : session.Sets invocation target) :
    (session.edited? (session.settings invocation) target = none ∧
        (run session).status = 1 ∧ (run session).files = session.files) ∨
      ∃ new, session.edited? (session.settings invocation) target = some new ∧
        Completes session target new (run session) := by
  have hsettings : invocation.applyTo (Settings.ofEnvironment session.environment).1 =
    session.settings invocation := rfl
  simp only [run, h.understood, runInvocation, h.noHelp, hsettings, h.enabled]
  cases hpattern : session.patternFault (session.settings invocation).callee with
  | some fault =>
      apply Or.inl
      simp [Session.edited?, hpattern]
  | none =>
      simp only [runCommand, h.command]
      rcases runSet_cases hpattern target with hfailed | ⟨new, hnew, hdry, hwet⟩
      · exact Or.inl hfailed
      · exact Or.inr ⟨new, hnew, hdry, hwet⟩

theorem files_run_of_not_sets (h : ∀ invocation target, ¬ session.Sets invocation target) :
    (run session).files = session.files := by
  rw [run]
  cases hunderstood : Invocation.ofArguments session.arguments with
  | error e => rfl
  | ok invocation =>
      simp only [runInvocation]
      cases hhelp : invocation.help with
      | true => rfl
      | false =>
          change (Outcome.files (if (session.settings invocation).enabled then _ else _)) = _
          cases henabled : (session.settings invocation).enabled with
          | false => rfl
          | true =>
              rw [if_pos rfl]
              split
              · rw [runCommand]
                cases hcommand : invocation.command with
                | none => rfl
                | some command =>
                    cases command with
                    | scan given => rfl
                    | set target => exact absurd ⟨hunderstood, hhelp, hcommand, henabled⟩ (h _ _)
              · rfl

/-- Whatever comes of a write, no file but the target of an edit that is not a dry one changes. -/
theorem sameBut_run (session : Session) :
    (run session).files = session.files ∨
      ∃ invocation target name, session.Sets invocation target ∧ target.dryRun = false ∧
        session.files.resolve target.path = .ok name ∧
        session.files.SameBut (run session).files name := by
  by_cases hsets : ∃ invocation target, session.Sets invocation target
  · obtain ⟨invocation, target, h⟩ := hsets
    rcases run_of_sets h with ⟨-, -, hfiles⟩ | ⟨new, hnew, hcompletes⟩
    · exact Or.inl hfiles
    · cases hdryRun : target.dryRun with
      | true => exact Or.inl (hcompletes.dry hdryRun).2.1
      | false =>
          obtain ⟨-, old, hread, -⟩ := edited?_eq_some_iff.mp hnew
          obtain ⟨name, hname, -⟩ := FileStore.read_eq_ok_iff.mp hread
          refine Or.inr ⟨invocation, target, name, h, hdryRun, hname, ?_⟩
          rw [(hcompletes.wet hdryRun).2]
          exact FileStore.sameBut_write hname new
  · apply Or.inl
    apply files_run_of_not_sets
    exact fun invocation target h => hsets ⟨invocation, target, h⟩

theorem Completes.status_eq_zero {new : Text} {outcome : Outcome}
    (h : Completes session target new outcome) (hwritable : session.files.Writable)
    (hnew : session.edited? settings target = some new) : outcome.status = 0 := by
  cases hdryRun : target.dryRun with
  | true => exact (h.dry hdryRun).1
  | false =>
      obtain ⟨-, old, hread, -⟩ := edited?_eq_some_iff.mp hnew
      obtain ⟨-, -, -, hwritten, -⟩ := FileStore.write_of_read hwritable hread new
      exact (h.wet hdryRun).1.mpr hwritten

theorem status_runSet (hwritable : session.files.Writable)
    (hpattern : session.patternFault settings.callee = none) :
    (runSet session settings target).status =
      if (session.edited? settings target).isSome then 0 else 1 := by
  rcases runSet_cases hpattern target with ⟨hnone, hstatus, -⟩ | ⟨new, hnew, hcompletes⟩
  · rw [hstatus, hnone]
    rfl
  · rw [hcompletes.status_eq_zero hwritable hnew, hnew]
    rfl

theorem status_runCommand_withoutDryRun (hwritable : session.files.Writable)
    (hpattern : session.patternFault settings.callee = none) :
    (runCommand session invocation.withoutDryRun settings).status =
      (runCommand session invocation settings).status := by
  obtain ⟨help, command, callee, columns, swatch, promoteAlpha, logLevel⟩ := invocation
  cases command with
  | none => rfl
  | some command =>
      cases command with
      | scan given => rfl
      | set target =>
          change (runSet session settings target.withoutDryRun).status =
            (runSet session settings target).status
          rw [status_runSet hwritable hpattern, status_runSet hwritable hpattern]
          rfl

theorem status_runInvocation_withoutDryRun (hwritable : session.files.Writable)
    (invocation : Invocation) :
    (runInvocation session invocation.withoutDryRun).status =
      (runInvocation session invocation).status := by
  have hsettings : invocation.withoutDryRun.applyTo = invocation.applyTo := rfl
  have hhelp : invocation.withoutDryRun.help = invocation.help := rfl
  simp only [runInvocation, hsettings, hhelp]
  split
  · rfl
  · split
    · split
      · rename_i hpattern
        exact status_runCommand_withoutDryRun hwritable hpattern
      · rfl
    · rfl

theorem status_run_withoutDryRun (hwritable : session.files.Writable)
    (hscan : ¬ Invocation.NamesScan session.arguments) :
    (run session.withoutDryRun).status = (run session).status := by
  have hunderstood := Invocation.ofArguments_withoutDryRun hscan
  rw [run, run, Session.withoutDryRun, hunderstood]
  cases Invocation.ofArguments session.arguments with
  | error e => rfl
  | ok invocation => exact status_runInvocation_withoutDryRun hwritable invocation

theorem sets_withoutDryRun (h : session.Sets invocation target) :
    session.withoutDryRun.Sets invocation.withoutDryRun target.withoutDryRun where
  understood := by
    have hscan := Invocation.not_namesScan_of_set h.understood h.noHelp h.command
    rw [Session.withoutDryRun, Invocation.ofArguments_withoutDryRun hscan, h.understood]
    rfl
  noHelp := h.noHelp
  command := by
    rw [Invocation.withoutDryRun, h.command]
    rfl
  enabled := h.enabled

theorem get?_run_of_sets (h : session.Sets invocation target) (hwritable : session.files.Writable)
    (hdryRun : target.dryRun = false) {new : Text}
    (hnew : session.edited? (session.settings invocation) target = some new) :
    ∃ name old, session.files.resolve target.path = .ok name ∧
      session.files.get? name = some (encodeText old) ∧
      editAt (session.settings invocation).locator old target.position target.picked
        (session.settings invocation).policy = .ok new ∧
      (run session).files.get? name = some (encodeText new) ∧
      session.files.SameBut (run session).files name := by
  obtain ⟨-, old, hread, hedit⟩ := edited?_eq_some_iff.mp hnew
  obtain ⟨name, hname, hold, -, hwritten, hsame⟩ := FileStore.write_of_read hwritable hread new
  rcases run_of_sets h with ⟨hnone, -⟩ | ⟨t, ht, hcompletes⟩
  · rw [hnew] at hnone
    contradiction
  · rw [hnew] at ht
    cases ht
    rw [(hcompletes.wet hdryRun).2]
    exact ⟨name, old, hname, hold, hedit, hwritten, hsame⟩

theorem status_run_eq_zero_iff (h : session.Sets invocation target)
    (hwritable : session.files.Writable) :
    (run session).status = 0 ↔
      session.patternFault (session.settings invocation).callee = none ∧
      ∃ old, session.files.read target.path = .ok old ∧
        ∃ new, editAt (session.settings invocation).locator old target.position target.picked
          (session.settings invocation).policy = .ok new := by
  constructor
  · intro hstatus
    rcases run_of_sets h with ⟨-, hfailed, -⟩ | ⟨new, hnew, -⟩
    · omega
    · obtain ⟨hpattern, old, hread, hedit⟩ := edited?_eq_some_iff.mp hnew
      exact ⟨hpattern, old, hread, new, hedit⟩
  · rintro ⟨hpattern, old, hread, new, hedit⟩
    have hnew := edited?_eq_some_iff.mpr ⟨hpattern, old, hread, hedit⟩
    rcases run_of_sets h with ⟨hnone, -⟩ | ⟨t, ht, hcompletes⟩
    · rw [hnew] at hnone
      contradiction
    · exact hcompletes.status_eq_zero hwritable ht

/-- As long as writes succeed, a run that sets a color ends well when its target can be read and
edited. A file changes only when such a run, and no dry one, ends well; then it is the target, and
its content is the edited text. A dry run ends well when the run itself does, and shows the text
that this one writes. -/
theorem run_changes_files_by_one_edit (session : Session) (hwritable : session.files.Writable) :
    (∀ invocation target, session.Sets invocation target →
      ((run session).status = 0 ↔
        session.patternFault (session.settings invocation).callee = none ∧
        ∃ old, session.files.read target.path = .ok old ∧
          ∃ new, editAt (session.settings invocation).locator old target.position target.picked
            (session.settings invocation).policy = .ok new)) ∧
    (∀ invocation target, session.Sets invocation target → target.dryRun = false →
      (run session).status = 0 →
      ∃ name old new, session.files.resolve target.path = .ok name ∧
        session.files.get? name = some (encodeText old) ∧
        editAt (session.settings invocation).locator old target.position target.picked
          (session.settings invocation).policy = .ok new ∧
        (run session).files.get? name = some (encodeText new) ∧
        session.files.SameBut (run session).files name) ∧
    ((∀ invocation target, session.Sets invocation target → target.dryRun = false →
      (run session).status ≠ 0) → (run session).files = session.files) ∧
    (¬ Invocation.NamesScan session.arguments →
      ((run session).status = 0 ↔ (run session.withoutDryRun).status = 0)) ∧
    ∀ invocation target, session.Sets invocation target → target.dryRun = true →
      (run session).status = 0 →
      ∃ name, session.files.resolve target.path = .ok name ∧
        (run session.withoutDryRun).files.get? name = some (encodeText (run session).output) := by
  refine ⟨fun _ _ h => status_run_eq_zero_iff h hwritable, ?_, ?_, ?_, ?_⟩
  · intro invocation target h hdryRun hstatus
    rcases run_of_sets h with ⟨-, hfailed, -⟩ | ⟨new, hnew, -⟩
    · omega
    · obtain ⟨name, old, hedited⟩ := get?_run_of_sets h hwritable hdryRun hnew
      exact ⟨name, old, new, hedited⟩
  · intro hidle
    rcases sameBut_run session with hfiles | ⟨invocation, target, -, h, hdryRun, -, -⟩
    · exact hfiles
    · rcases run_of_sets h with ⟨-, -, hfiles⟩ | ⟨new, hnew, hcompletes⟩
      · exact hfiles
      · have hstatus := hcompletes.status_eq_zero hwritable hnew
        exact absurd hstatus (hidle invocation target h hdryRun)
  · intro hscan
    rw [status_run_withoutDryRun hwritable hscan]
  · intro invocation target h hdryRun hstatus
    rcases run_of_sets h with ⟨-, hfailed, -⟩ | ⟨new, hnew, hcompletes⟩
    · omega
    · obtain ⟨name, old, hname, -, -, hwritten, -⟩ :=
        get?_run_of_sets (sets_withoutDryRun h) hwritable rfl hnew
      rw [(hcompletes.dry hdryRun).2.2]
      exact ⟨name, hname, hwritten⟩

theorem run_changes_one_file_of_two :
    let session : Session :=
      { arguments := ["set", "--dry-run", "a.py", "1:1", "9,8,7"]
        environment := fun _ => none
        input := .empty
        files :=
          { files := [("a.py", encodeText "QColor(1,2,3)"), ("b.py", encodeText "")]
            resolve := .ok } }
    let written := (run session.withoutDryRun).files
    (run session).files = session.files ∧
      written.get? "a.py" = some (encodeText (run session).output) ∧
      written.get? "b.py" = some (encodeText "") := by
  intro session written
  let target : SetTarget := ⟨"a.py", ⟨0, 0⟩, .ofChannels ⟨⟨9, 8, 7⟩, 255⟩, true⟩
  let invocation : Invocation := { command := some (.set target) }
  have hunderstood : (Invocation.ofArguments session.arguments).toOption = some invocation := by
    decide +kernel
  have hsets : session.Sets invocation target :=
    ⟨eq_ok_of_toOption_eq_some hunderstood, rfl, rfl, rfl⟩
  have hstatus : (run session).status = 0 := by decide +kernel
  have hwritable : session.files.Writable := fun _ _ => rfl
  obtain ⟨-, -, hidle, hdryRun, hshown⟩ := run_changes_files_by_one_edit session hwritable
  obtain ⟨-, hwritten, -⟩ := run_changes_files_by_one_edit session.withoutDryRun hwritable
  have hscan := Invocation.not_namesScan_of_set hsets.understood hsets.noHelp hsets.command
  obtain ⟨_, hname, houtput⟩ := hshown invocation target hsets rfl hstatus
  obtain ⟨_, _, _, hname', -, -, -, hsame⟩ :=
    hwritten _ _ (sets_withoutDryRun hsets) rfl ((hdryRun hscan).mp hstatus)
  cases hname
  cases hname'
  refine ⟨hidle ?_, houtput, hsame.content _ (by decide)⟩
  intro other otherTarget hother hwet
  have hinvocation := hsets.understood.symm.trans hother.understood
  cases hinvocation
  have hcommand := hsets.command.symm.trans hother.command
  cases hcommand
  contradiction

end Program

end ColorCalls
