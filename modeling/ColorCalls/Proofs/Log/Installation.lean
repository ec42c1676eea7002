import ColorCalls.Log.Facade
import Mathlib.Data.List.Induction
import Mathlib.Data.List.Infix

/-! Loggers installed in the course of a process. The first one stays, and an installation that
fails nevertheless changes the level above which records are not even delivered. So it goes
unnoticed exactly if it asks for the filter of the installed logger
(`failed_installations_are_idle_iff`); one with a stricter filter makes the process lose records. -/

namespace ColorCalls

inductive LogStep where
  | install (logger : Logger)
  | record (time : Text) (r : Record)

/-- The log of a process: its loggers, the time that the installed one compares with next, and the
lines that it has written. -/
structure ProcessLog where
  facade : LogFacade := {}
  last : Option Text := none
  lines : List Text := []

namespace ProcessLog

def step (log : ProcessLog) : LogStep → ProcessLog
  | .install logger => { log with facade := (log.facade.install logger).1 }
  | .record time r =>
      match log.facade.installed with
      | none => log
      | some logger =>
          if log.facade.delivers r.level then
            let (line, last) := logger.write log.last time r
            { log with last := last, lines := log.lines ++ [line] }
          else log

def run (steps : List LogStep) : ProcessLog := steps.foldl step {}

def fails (log : ProcessLog) : LogStep → Bool
  | .install logger => !(log.facade.install logger).2.isOk
  | .record _ _ => false

def withoutFailed (log : ProcessLog) : List LogStep → List LogStep
  | [] => []
  | s :: steps =>
      if log.fails s then withoutFailed (log.step s) steps
      else s :: withoutFailed (log.step s) steps

theorem run_concat (steps : List LogStep) (s : LogStep) :
    run (steps ++ [s]) = (run steps).step s := by
  rw [run, List.foldl_append]
  rfl

theorem withoutFailed_concat (log : ProcessLog) (steps : List LogStep) (s : LogStep) :
    log.withoutFailed (steps ++ [s]) =
      log.withoutFailed steps ++ if (steps.foldl step log).fails s then [] else [s] := by
  induction steps generalizing log with
  | nil =>
      simp only [List.nil_append, withoutFailed, List.foldl_nil]
      rfl
  | cons next steps ih =>
      rw [List.cons_append, withoutFailed, withoutFailed, List.foldl_cons, ih]
      split
      · rfl
      · rfl

variable {log log' : ProcessLog} {logger first : Logger} {time : Text} {r : Record}

theorem fails_install_iff : log.fails (.install logger) = true ↔ log.facade.installed.isSome := by
  rw [fails, LogFacade.install]
  cases log.facade.installed with
  | none => simp [Except.isOk, Except.toBool]
  | some first => simp [Except.isOk, Except.toBool]

theorem step_install_of_none (h : log.facade.installed = none) :
    log.step (.install logger) = { log with facade := ⟨some logger, logger.filter⟩ } := by
  rw [step, LogFacade.install, h]

theorem step_install_of_some (h : log.facade.installed = some first) :
    log.step (.install logger) = { log with facade := ⟨some first, logger.filter⟩ } := by
  rw [step, LogFacade.install, h]

theorem step_install_eq_self (hinstalled : log.facade.installed = some first)
    (hmaxLevel : log.facade.maxLevel = logger.filter) : log.step (.install logger) = log := by
  rw [step_install_of_some hinstalled, ← hmaxLevel, ← hinstalled]

theorem step_record_of_delivers (hinstalled : log.facade.installed = some first)
    (h : log.facade.delivers r.level = true) (time : Text) :
    log.step (.record time r) =
      { log with
        last := (first.write log.last time r).2
        lines := log.lines ++ [(first.write log.last time r).1] } := by
  rw [step, hinstalled]
  simp only [h, if_true]

theorem step_record_of_not_delivers (h : log.facade.delivers r.level = false) :
    log.step (.record time r) = log := by
  rw [step]
  split
  · rfl
  · rw [if_neg (by simp [h])]

theorem delivers_iff (hinstalled : log.facade.installed = some first) :
    log.facade.delivers r.level = true ↔
      log.facade.maxLevel.allows r.level = true ∧ first.enabled r.level = true := by
  simp [LogFacade.delivers, hinstalled]

theorem delivers_of_installed_eq_none (h : log.facade.installed = none) :
    log.facade.delivers r.level = false := by
  simp [LogFacade.delivers, h]

/-- The step is an installation that fails and asks for a filter of its own. -/
def Disturbs (log : ProcessLog) : LogStep → Prop
  | .install logger => ∃ first ∈ log.facade.installed, logger.filter ≠ first.filter
  | .record _ _ => False

/-- The step is a record that the installed logger lets through and never sees. -/
def Loses (log : ProcessLog) : LogStep → Prop
  | .install _ => False
  | .record _ r => ∃ first ∈ log.facade.installed,
      first.enabled r.level = true ∧ log.facade.maxLevel.allows r.level = false

/-- The first log lacks at most lines that the second one has. The second one is of a process in
which no installation fails, so that its level is that of its logger. -/
structure Trails (log log' : ProcessLog) : Prop where
  installed : log.facade.installed = log'.facade.installed
  maxLevel : log'.facade.maxLevel = log'.facade.installed.elim none Logger.filter
  length_le : log.lines.length ≤ log'.lines.length
  eq_of_length_eq : log.lines.length = log'.lines.length →
    log.lines = log'.lines ∧ log.last = log'.last

theorem Trails.step_of_fails (h : Trails log log') {s : LogStep} (hfails : log.fails s = true) :
    Trails (log.step s) log' := by
  cases s with
  | record time r => contradiction
  | install logger =>
      obtain ⟨first, hfirst⟩ := Option.isSome_iff_exists.mp (fails_install_iff.mp hfails)
      rw [step_install_of_some hfirst]
      exact ⟨hfirst.symm.trans h.installed, h.maxLevel, h.length_le, h.eq_of_length_eq⟩

theorem Trails.step_install (h : Trails log log') (hfails : log.fails (.install logger) = false) :
    Trails (log.step (.install logger)) (log'.step (.install logger)) := by
  have hnone : log.facade.installed = none := by
    rw [← Option.not_isSome_iff_eq_none, ← fails_install_iff, hfails]
    exact Bool.false_ne_true
  rw [step_install_of_none hnone, step_install_of_none (h.installed ▸ hnone)]
  exact ⟨rfl, rfl, h.length_le, h.eq_of_length_eq⟩

/-- A record adds a line to neither log, or to the second one alone because the first one loses it,
or to both. -/
theorem Trails.step_record_cases (h : Trails log log') (time : Text) (r : Record) :
    (log.step (.record time r) = log ∧ log'.step (.record time r) = log' ∧
      ¬ log.Loses (.record time r)) ∨
    (∃ last line, log.step (.record time r) = log ∧
      log'.step (.record time r) = { log' with last := last, lines := log'.lines ++ [line] } ∧
      log.Loses (.record time r)) ∨
    ∃ logger : Logger,
      log.step (.record time r) =
        { log with
          last := (logger.write log.last time r).2
          lines := log.lines ++ [(logger.write log.last time r).1] } ∧
      log'.step (.record time r) =
        { log' with
          last := (logger.write log'.last time r).2
          lines := log'.lines ++ [(logger.write log'.last time r).1] } ∧
      ¬ log.Loses (.record time r) := by
  cases hinstalled : log.facade.installed with
  | none =>
      have hinstalled' : log'.facade.installed = none := h.installed ▸ hinstalled
      exact .inl ⟨step_record_of_not_delivers (delivers_of_installed_eq_none hinstalled),
        step_record_of_not_delivers (delivers_of_installed_eq_none hinstalled'),
        by simp [Loses, hinstalled]⟩
  | some first =>
      have hinstalled' : log'.facade.installed = some first := h.installed ▸ hinstalled
      have hdelivers := delivers_iff (r := r) hinstalled
      have hdelivers' : log'.facade.delivers r.level = true ↔ first.enabled r.level = true := by
        rw [delivers_iff hinstalled', h.maxLevel, hinstalled']
        exact and_self_iff
      cases henabled : first.enabled r.level with
      | false =>
          rw [henabled] at hdelivers hdelivers'
          exact .inl ⟨step_record_of_not_delivers (by simpa using hdelivers),
            step_record_of_not_delivers (by simpa using hdelivers'),
            by simp [Loses, hinstalled, henabled]⟩
      | true =>
          rw [henabled] at hdelivers hdelivers'
          have hstep' := step_record_of_delivers hinstalled' (hdelivers'.mpr rfl) time
          cases hallows : log.facade.maxLevel.allows r.level with
          | false =>
              rw [hallows] at hdelivers
              exact .inr (.inl ⟨_, _, step_record_of_not_delivers (by simpa using hdelivers), hstep',
                first, hinstalled, henabled, hallows⟩)
          | true =>
              exact .inr (.inr ⟨first,
                step_record_of_delivers hinstalled (hdelivers.mpr ⟨hallows, rfl⟩) time, hstep',
                by simp [Loses, hinstalled, hallows]⟩)

theorem Trails.step_record (h : Trails log log') (time : Text) (r : Record) :
    Trails (log.step (.record time r)) (log'.step (.record time r)) := by
  rcases h.step_record_cases time r with ⟨hstep, hstep', -⟩ | ⟨last, line, hstep, hstep', -⟩ |
    ⟨logger, hstep, hstep', -⟩
  · rw [hstep, hstep']
    exact h
  · rw [hstep, hstep']
    have hle := h.length_le
    refine ⟨h.installed, h.maxLevel, ?_, fun hlength => ?_⟩
    · rw [List.length_append]
      exact Nat.le_add_right_of_le hle
    · rw [List.length_append, List.length_singleton] at hlength
      omega
  · rw [hstep, hstep']
    refine ⟨h.installed, h.maxLevel, ?_, fun hlength => ?_⟩
    · simpa using h.length_le
    · obtain ⟨hlines, hlast⟩ := h.eq_of_length_eq (by simpa using hlength)
      simp only [hlines, hlast, and_self]

theorem Trails.lines_step_record_eq_iff (h : Trails log log') (time : Text) (r : Record) :
    (log.step (.record time r)).lines = (log'.step (.record time r)).lines ↔
      log.lines = log'.lines ∧ ¬ log.Loses (.record time r) := by
  rcases h.step_record_cases time r with ⟨hstep, hstep', hloses⟩ |
    ⟨last, line, hstep, hstep', hloses⟩ | ⟨logger, hstep, hstep', hloses⟩
  · rw [hstep, hstep', and_iff_left hloses]
  · rw [hstep, hstep']
    refine iff_of_false (fun heq => ?_) fun hkept => hkept.2 hloses
    have hlength := congrArg List.length heq
    have hle := h.length_le
    rw [List.length_append, List.length_singleton] at hlength
    omega
  · rw [hstep, hstep', and_iff_left hloses]
    constructor
    · exact fun heq => (List.append_inj' heq rfl).1
    · intro heq
      obtain ⟨hlines, hlast⟩ := h.eq_of_length_eq (congrArg List.length heq)
      simp only [hlines, hlast]

theorem run_withoutFailed_concat (steps : List LogStep) (s : LogStep) :
    run (withoutFailed {} (steps ++ [s])) =
      if (run steps).fails s then run (withoutFailed {} steps)
      else (run (withoutFailed {} steps)).step s := by
  rw [withoutFailed_concat]
  change run (_ ++ if (run steps).fails s then _ else _) = _
  split
  · rw [List.append_nil]
  · rw [run_concat]

theorem trails_run (steps : List LogStep) : Trails (run steps) (run (withoutFailed {} steps)) := by
  induction steps using List.reverseRecOn with
  | nil => exact ⟨rfl, rfl, Nat.le_refl _, fun _ => ⟨rfl, rfl⟩⟩
  | append_singleton steps s ih =>
      rw [run_concat, run_withoutFailed_concat]
      cases hfails : (run steps).fails s with
      | true => exact ih.step_of_fails hfails
      | false =>
          cases s with
          | install logger => exact ih.step_install hfails
          | record time r => exact ih.step_record time r

theorem forall_concat_isPrefix_concat_iff {α : Type} {P : List α → α → Prop} {l : List α} {a : α} :
    (∀ before x, before ++ [x] <+: l ++ [a] → P before x) ↔
      (∀ before x, before ++ [x] <+: l → P before x) ∧ P l a := by
  constructor
  · intro h
    exact ⟨fun before x hbegins => h before x (hbegins.trans (List.prefix_append l [a])),
      h l a (List.prefix_refl _)⟩
  · rintro ⟨h, ha⟩ before x hbegins
    rcases List.prefix_concat_iff.mp hbegins with heq | hbegins
    · obtain ⟨rfl, hx⟩ := List.append_inj' heq rfl
      cases hx
      exact ha
    · exact h before x hbegins

theorem run_eq_run_withoutFailed {steps : List LogStep}
    (h : ∀ before s, before ++ [s] <+: steps → ¬ (run before).Disturbs s) :
    run steps = run (withoutFailed {} steps) := by
  induction steps using List.reverseRecOn with
  | nil => rfl
  | append_singleton steps s ih =>
      obtain ⟨hsteps, hs⟩ := forall_concat_isPrefix_concat_iff.mp h
      have htrails := trails_run steps
      have heq := ih hsteps
      rw [run_concat, run_withoutFailed_concat]
      rw [← heq] at htrails ⊢
      cases hfails : (run steps).fails s with
      | false => rfl
      | true =>
          cases s with
          | record time r => contradiction
          | install logger =>
              obtain ⟨first, hfirst⟩ := Option.isSome_iff_exists.mp (fails_install_iff.mp hfails)
              have hfilter : logger.filter = first.filter := by
                by_contra hne
                exact hs ⟨first, hfirst, hne⟩
              have hmaxLevel := htrails.maxLevel
              rw [hfirst] at hmaxLevel
              rw [if_pos rfl]
              exact step_install_eq_self hfirst (hmaxLevel.trans hfilter.symm)

theorem lines_run_eq_iff (steps : List LogStep) :
    (run steps).lines = (run (withoutFailed {} steps)).lines ↔
      ∀ before s, before ++ [s] <+: steps → ¬ (run before).Loses s := by
  induction steps using List.reverseRecOn with
  | nil => simp [withoutFailed]
  | append_singleton steps s ih =>
      rw [forall_concat_isPrefix_concat_iff, ← ih, run_concat, run_withoutFailed_concat]
      cases s with
      | install logger =>
          have hkept : ¬ (run steps).Loses (.install logger) := id
          rw [and_iff_left hkept]
          split
          · rfl
          · rfl
      | record time r => exact (trails_run steps).lines_step_record_eq_iff time r

theorem not_disturbs_of_forall_maxLevel_eq {steps : List LogStep}
    (h : ∀ before, before <+: steps →
      (run before).facade.maxLevel = (run (withoutFailed {} before)).facade.maxLevel)
    {before : List LogStep} {s : LogStep} (hbegins : before ++ [s] <+: steps) :
    ¬ (run before).Disturbs s := by
  cases s with
  | record time r => exact id
  | install logger =>
      rintro ⟨first, hfirst, hne⟩
      have htrails := trails_run before
      have hfails : (run before).fails (.install logger) = true :=
        fails_install_iff.mpr (Option.isSome_iff_exists.mpr ⟨first, hfirst⟩)
      have hlevel := h _ hbegins
      rw [run_concat, run_withoutFailed_concat, if_pos hfails, step_install_of_some hfirst,
        htrails.maxLevel, ← htrails.installed, hfirst] at hlevel
      exact hne hlevel

/-- The first logger stays whatever installations fail. The lines written and the maximum level are
at every point what they are without the failed ones exactly if each of these asks for the filter of
the installed logger. Lines are never added, and none is missing in the end exactly if every record
that the installed logger lets through comes when the last filter asked for lets it through, too. -/
theorem failed_installations_are_idle_iff (steps : List LogStep) :
    (run steps).facade.installed = (run (withoutFailed {} steps)).facade.installed ∧
    ((∀ before, before <+: steps →
        (run before).lines = (run (withoutFailed {} before)).lines ∧
        (run before).facade.maxLevel = (run (withoutFailed {} before)).facade.maxLevel) ↔
      ∀ before s, before ++ [s] <+: steps → ¬ (run before).Disturbs s) ∧
    (run steps).lines.length ≤ (run (withoutFailed {} steps)).lines.length ∧
    ((run steps).lines = (run (withoutFailed {} steps)).lines ↔
      ∀ before s, before ++ [s] <+: steps → ¬ (run before).Loses s) := by
  have htrails := trails_run steps
  refine ⟨htrails.installed, ⟨?_, ?_⟩, htrails.length_le, lines_run_eq_iff steps⟩
  · exact fun h before s => not_disturbs_of_forall_maxLevel_eq fun before hbefore =>
      (h before hbefore).2
  · intro h before hbefore
    have heq := run_eq_run_withoutFailed fun earlier s hbegins =>
      h earlier s (hbegins.trans hbefore)
    exact ⟨congrArg lines heq, congrArg (fun log => log.facade.maxLevel) heq⟩

theorem failed_installation_loses_warning :
    ¬ (∀ steps, (run steps).lines = (run (withoutFailed {} steps)).lines) ∧
      ¬ ∀ steps,
        (run steps).facade.maxLevel = (run (withoutFailed {} steps)).facade.maxLevel := by
  let steps : List LogStep :=
    [.install { filter := some .info }, .install { filter := some .error },
      .record "12:00:00" ⟨.warn, "app", "careful"⟩]
  constructor
  · intro h
    have hlines := congrArg List.length (h steps)
    revert hlines
    decide +kernel
  · intro h
    have hlevel := h steps
    revert hlevel
    decide +kernel

end ProcessLog

end ColorCalls
