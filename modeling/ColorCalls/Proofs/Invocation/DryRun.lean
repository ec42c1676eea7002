import ColorCalls.Proofs.Invocation.Items

namespace ColorCalls

def SetTarget.withoutDryRun (target : SetTarget) : SetTarget := { target with dryRun := false }

def Command.withoutDryRun : Command → Command
  | .scan sources => .scan sources
  | .set target => .set target.withoutDryRun

namespace Invocation

def withoutDryRun (invocation : Invocation) : Invocation :=
  { invocation with command := invocation.command.map Command.withoutDryRun }

theorem withoutDryRun_of_command_eq_none {invocation : Invocation}
    (h : invocation.command = none) : invocation.withoutDryRun = invocation := by
  cases invocation
  cases h
  rfl

/-- The arguments without the switches `--dry-run`. One that is the value of an option stays. -/
def argumentsWithoutDryRun : List Text → List Text
  | [] => []
  | argument :: rest =>
      match kind argument with
      | .switch .dryRun => argumentsWithoutDryRun rest
      | .valued _ =>
          match rest with
          | [] => [argument]
          | value :: rest => argument :: value :: argumentsWithoutDryRun rest
      | _ => argument :: argumentsWithoutDryRun rest

theorem argumentsWithoutDryRun_keep {argument : Text} (hdryRun : kind argument ≠ .switch .dryRun)
    (hvalued : ∀ f, kind argument ≠ .valued f) (rest : List Text) :
    argumentsWithoutDryRun (argument :: rest) = argument :: argumentsWithoutDryRun rest := by
  rw [argumentsWithoutDryRun.eq_def]
  split
  · contradiction
  · rename_i harguments
    cases harguments
    split
    · contradiction
    · rename_i hkind
      exact absurd hkind (hvalued _)
    · rfl

theorem argumentsWithoutDryRun_drop {argument : Text} (hdryRun : kind argument = .switch .dryRun)
    (rest : List Text) :
    argumentsWithoutDryRun (argument :: rest) = argumentsWithoutDryRun rest := by
  rw [argumentsWithoutDryRun.eq_def]
  simp only [hdryRun]

namespace Draft

def withoutDryRun (d : Draft) : Draft := { d with dryRun := false }

theorem turn_withoutDryRun (d : Draft) {s : Switch} (hs : s ≠ .dryRun) :
    d.withoutDryRun.turn s = (d.turn s).withoutDryRun := by
  cases s with
  | dryRun => contradiction
  | help | noSwatch | promoteAlpha => rfl

theorem assign_withoutDryRun (d : Draft) (value : Text) (f : ValuedFlag) :
    d.withoutDryRun.assign value f = (d.assign value f).map withoutDryRun := by
  cases f with
  | callee =>
      simp only [assign]
      split
      · rfl
      · rfl
  | columns =>
      simp only [assign]
      cases ColumnUnit.ofText? value with
      | none => rfl
      | some unit => rfl
  | logLevel =>
      simp only [assign]
      cases logFilter? value with
      | none => rfl
      | some filter => rfl

theorem absorb_withoutDryRun (d : Draft) (arguments : List Text) :
    d.withoutDryRun.absorb (argumentsWithoutDryRun arguments) =
      (d.absorb arguments).map withoutDryRun := by
  induction d, arguments using absorb.induct with
  | case1 d => rfl
  | case2 d argument rest s hkind ih =>
      by_cases hs : s = .dryRun
      · subst hs
        rw [argumentsWithoutDryRun_drop hkind, absorb, hkind]
        exact ih
      · rw [argumentsWithoutDryRun_keep (by simp [hkind, hs]) (by simp [hkind]), absorb, absorb,
          hkind]
        simp only [turn_withoutDryRun d hs]
        exact ih
  | case3 d argument f hkind =>
      simp only [argumentsWithoutDryRun, absorb, hkind]
      rfl
  | case4 d argument f hkind value rest d' hassign ih =>
      simp only [argumentsWithoutDryRun, absorb, hkind, assign_withoutDryRun, hassign]
      exact ih
  | case5 d argument f hkind value rest e hassign =>
      simp only [argumentsWithoutDryRun, absorb, hkind, assign_withoutDryRun, hassign]
      rfl
  | case6 d argument rest hkind ih =>
      rw [argumentsWithoutDryRun_keep (by simp [hkind]) (by simp [hkind]), absorb, absorb, hkind]
      exact ih
  | case7 d argument rest hkind =>
      rw [argumentsWithoutDryRun_keep (by simp [hkind]) (by simp [hkind]), absorb, absorb, hkind]
      rfl

theorem command_take {d d' : Draft} {item : Item} (h : d.take item = .ok d') :
    d'.invocation.command = d.invocation.command := by
  rcases cases_of_take_eq_ok h with ⟨s, -, rfl⟩ | ⟨argument, -, rfl⟩ | ⟨value, -, -, rfl⟩ |
    ⟨value, unit, -, -, rfl⟩ | ⟨value, filter, -, -, rfl⟩
  · cases s with
    | help | noSwatch | promoteAlpha | dryRun => rfl
  · rfl
  · rfl
  · rfl
  · rfl

theorem command_absorb {d d' : Draft} {arguments : List Text}
    (h : d.absorb arguments = .ok d') : d'.invocation.command = d.invocation.command := by
  rw [absorb_eq_foldlM_items] at h
  refine foldlM_take_induction (P := fun e => e.invocation.command = d.invocation.command)
    (fun e e' item he htake => ?_) rfl h
  exact (command_take htake).trans he

theorem command_withoutDryRun {d : Draft} (hscan : d.positionals.head? ≠ some "scan".toList) :
    d.withoutDryRun.command = d.command.map (Option.map Command.withoutDryRun) := by
  obtain ⟨invocation, positionals, dryRun⟩ := d
  cases positionals with
  | nil => rfl
  | cons name arguments =>
      have hname : ¬ name = "scan".toList := fun h => hscan (congrArg some h)
      simp only [withoutDryRun, command, if_neg hname]
      split
      · split
        · rename_i path positionText colorText
          cases position positionText with
          | error e => rfl
          | ok p =>
              cases color colorText with
              | error e => rfl
              | ok picked => rfl
        · rfl
      · rfl

theorem finish_withoutDryRun {d : Draft} (hcommand : d.invocation.command = none)
    (hscan : d.positionals.head? ≠ some "scan".toList) :
    d.withoutDryRun.finish = d.finish.map Invocation.withoutDryRun := by
  have hinvocation : d.withoutDryRun.invocation = d.invocation := rfl
  rw [finish, finish, hinvocation, command_withoutDryRun hscan]
  split
  · rw [Except.map, Invocation.withoutDryRun_of_command_eq_none hcommand]
  · cases d.command with
    | error e => rfl
    | ok command => rfl

end Draft

/-- The arguments name the command `scan`, which does not take the switch. -/
def NamesScan (arguments : List Text) : Prop :=
  ∃ d, Draft.absorb {} arguments = .ok d ∧ d.positionals.head? = some "scan".toList

theorem ofArguments_withoutDryRun {arguments : List Text} (hscan : ¬ NamesScan arguments) :
    ofArguments (argumentsWithoutDryRun arguments) =
      (ofArguments arguments).map withoutDryRun := by
  have habsorb := Draft.absorb_withoutDryRun {} arguments
  change Draft.absorb {} _ = _ at habsorb
  rw [ofArguments, ofArguments, habsorb]
  cases hdraft : Draft.absorb {} arguments with
  | error e => rfl
  | ok d =>
      apply Draft.finish_withoutDryRun (Draft.command_absorb hdraft)
      exact fun hname => hscan ⟨d, hdraft, hname⟩

theorem Draft.command_of_scan {d : Draft} (hname : d.positionals.head? = some "scan".toList) :
    d.command = .error .dryRunWithoutSet ∨ ∃ sources, d.command = .ok (some (.scan sources)) := by
  obtain ⟨sources, hpositionals⟩ := List.head?_eq_some_iff.mp hname
  simp only [command, hpositionals, if_true]
  cases d.dryRun with
  | true => exact Or.inl rfl
  | false => exact Or.inr ⟨sources, rfl⟩

theorem not_namesScan_of_set {arguments : List Text} {invocation : Invocation} {target : SetTarget}
    (hunderstood : ofArguments arguments = .ok invocation) (hhelp : invocation.help = false)
    (hcommand : invocation.command = some (.set target)) : ¬ NamesScan arguments := by
  rintro ⟨d, hdraft, hname⟩
  rw [ofArguments, hdraft] at hunderstood
  change d.finish = _ at hunderstood
  rw [Draft.finish] at hunderstood
  split at hunderstood
  · rename_i hdraftHelp
    cases hunderstood
    rw [hhelp] at hdraftHelp
    contradiction
  · rcases Draft.command_of_scan hname with herror | ⟨sources, hscan⟩
    · rw [herror] at hunderstood
      contradiction
    · rw [hscan] at hunderstood
      cases hunderstood
      cases hcommand

end Invocation

end ColorCalls
