import ColorCalls.Invocation
import ColorCalls.Proofs.Arguments
import ColorCalls.Proofs.Text.Trim
import Mathlib.Data.List.Forall2

/-! Arguments as items: a switch, an option together with the argument that it takes as its value,
or a positional argument. Arguments are read by taking their items from the left
(`absorb_eq_foldlM_items`). What is read does not depend on the values of `--log-level`, the level
apart (`ofArguments_of_sameButLogLevels`), `--no-swatch` counts wherever it stands
(`swatch_of_noSwatch_mem_items`), and there is always a callee (`isCallee_applyTo`). -/

namespace ColorCalls.Invocation

inductive Item where
  | switch (s : Switch)
  | option (f : ValuedFlag) (value : Text)
  | positional (argument : Text)
  | incomplete (flag : Text)
  | unknown (argument : Text)
  deriving DecidableEq, Repr

def items : List Text → List Item
  | [] => []
  | argument :: rest =>
      match kind argument with
      | .switch s => .switch s :: items rest
      | .valued f =>
          match rest with
          | [] => [.incomplete argument]
          | value :: rest => .option f value :: items rest
      | .positional => .positional argument :: items rest
      | .unknown => .unknown argument :: items rest

namespace Draft

def take (d : Draft) : Item → Except UsageError Draft
  | .switch s => .ok (d.turn s)
  | .option f value => d.assign value f
  | .positional argument => .ok (d.push argument)
  | .incomplete flag => .error (.missingValue flag)
  | .unknown argument => .error (.unknownFlag argument)

theorem absorb_eq_foldlM_items (d : Draft) (arguments : List Text) :
    d.absorb arguments = (items arguments).foldlM take d := by
  induction d, arguments using absorb.induct with
  | case1 d => rfl
  | case2 d argument rest s hkind ih =>
      rw [absorb, items, hkind]
      exact ih
  | case3 d argument f hkind =>
      simp only [absorb, items, hkind]
      rfl
  | case4 d argument f hkind value rest d' hassign ih =>
      simp only [absorb, items, hkind, hassign, List.foldlM_cons, take]
      exact ih
  | case5 d argument f hkind value rest e hassign =>
      simp only [absorb, items, hkind, hassign, List.foldlM_cons, take]
      rfl
  | case6 d argument rest hkind ih =>
      rw [absorb, items, hkind]
      exact ih
  | case7 d argument rest hkind =>
      simp only [absorb, items, hkind]
      rfl

theorem cases_of_take_eq_ok {d d' : Draft} {item : Item} (h : d.take item = .ok d') :
    (∃ s, item = .switch s ∧ d' = d.turn s) ∨
    (∃ argument, item = .positional argument ∧ d' = d.push argument) ∨
    (∃ value, item = .option .callee value ∧ Text.trim value ≠ [] ∧
      d' = { d with invocation.callee := some (Text.trim value) }) ∨
    (∃ value unit, item = .option .columns value ∧ ColumnUnit.ofText? value = some unit ∧
      d' = { d with invocation.columns := some unit }) ∨
    (∃ value filter, item = .option .logLevel value ∧ logFilter? value = some filter ∧
      d' = { d with invocation.logLevel := filter }) := by
  cases item with
  | switch s =>
      cases h
      exact .inl ⟨s, rfl, rfl⟩
  | positional argument =>
      cases h
      exact .inr (.inl ⟨argument, rfl, rfl⟩)
  | option f value =>
      rw [take] at h
      cases f with
      | callee =>
          simp only [assign] at h
          split at h
          · contradiction
          · rename_i hne
            cases h
            exact .inr (.inr (.inl ⟨value, rfl, hne, rfl⟩))
      | columns =>
          simp only [assign] at h
          split at h
          · rename_i unit hunit
            cases h
            exact .inr (.inr (.inr (.inl ⟨value, unit, rfl, hunit, rfl⟩)))
          · contradiction
      | logLevel =>
          simp only [assign] at h
          split at h
          · rename_i filter hfilter
            cases h
            exact .inr (.inr (.inr (.inr ⟨value, filter, rfl, hfilter, rfl⟩)))
          · contradiction
  | incomplete flag | unknown argument => contradiction

/-- What one item cannot take away from a draft, no sequence of items can. -/
theorem foldlM_take_induction {P : Draft → Prop}
    (hstep : ∀ (d d' : Draft) (item : Item), P d → d.take item = .ok d' → P d') {d d' : Draft}
    {l : List Item} (hd : P d) (h : l.foldlM take d = .ok d') : P d' := by
  induction l generalizing d with
  | nil =>
      cases h
      exact hd
  | cons item l ih =>
      rw [List.foldlM_cons] at h
      obtain ⟨next, hnext, hrest⟩ := exists_of_bind_eq_ok h
      exact ih (hstep d next item hd hnext) hrest

def IsOn (d : Draft) : Switch → Prop
  | .help => d.invocation.help = true
  | .noSwatch => d.invocation.swatch = false
  | .promoteAlpha => d.invocation.promoteAlpha = true
  | .dryRun => d.dryRun = true

/-- A switch is turned by its own item alone, and never back. -/
theorem isOn_take {d d' : Draft} {item : Item} (h : d.take item = .ok d') (s : Switch) :
    d'.IsOn s ↔ d.IsOn s ∨ item = .switch s := by
  rcases cases_of_take_eq_ok h with ⟨other, rfl, rfl⟩ | ⟨argument, rfl, rfl⟩ |
    ⟨value, rfl, -, rfl⟩ | ⟨value, unit, rfl, -, rfl⟩ | ⟨value, filter, rfl, -, rfl⟩
  · cases s <;> cases other <;> simp [IsOn, turn]
  · cases s <;> simp [IsOn, push]
  · cases s <;> simp [IsOn]
  · cases s <;> simp [IsOn]
  · cases s <;> simp [IsOn]

theorem isOn_foldlM_take {d d' : Draft} {l : List Item} (h : l.foldlM take d = .ok d')
    (s : Switch) : d'.IsOn s ↔ d.IsOn s ∨ .switch s ∈ l := by
  induction l generalizing d with
  | nil =>
      cases h
      simp
  | cons item l ih =>
      rw [List.foldlM_cons] at h
      obtain ⟨next, hnext, hrest⟩ := exists_of_bind_eq_ok h
      rw [ih hrest, isOn_take hnext, List.mem_cons, or_assoc, eq_comm (a := item)]

end Draft

theorem exists_of_ofArguments_eq_ok {arguments : List Text} {invocation : Invocation}
    (h : ofArguments arguments = .ok invocation) :
    ∃ d command, (items arguments).foldlM Draft.take {} = .ok d ∧
      invocation = { d.invocation with command := command } := by
  obtain ⟨d, hdraft, hfinish⟩ := exists_of_bind_eq_ok h
  rw [Draft.absorb_eq_foldlM_items] at hdraft
  rw [Draft.finish] at hfinish
  split at hfinish
  · cases hfinish
    exact ⟨d, _, hdraft, rfl⟩
  · obtain ⟨command, -, hcommand⟩ := exists_of_bind_eq_ok hfinish
    cases hcommand
    exact ⟨d, command, hdraft, rfl⟩

theorem swatch_of_noSwatch_mem_items {arguments : List Text} {invocation : Invocation}
    (hmem : .switch .noSwatch ∈ items arguments) (h : ofArguments arguments = .ok invocation) :
    invocation.swatch = false := by
  obtain ⟨d, command, hdraft, rfl⟩ := exists_of_ofArguments_eq_ok h
  exact (Draft.isOn_foldlM_take hdraft .noSwatch).mpr (.inr hmem)

/-- The callee is given, and neither end of it is white space. -/
structure IsCallee (callee : Text) : Prop where
  ne_nil : callee ≠ []
  isTrimmed : Text.IsTrimmed callee

theorem Draft.isCallee_take {d d' : Draft} {item : Item}
    (hd : ∀ callee ∈ d.invocation.callee, IsCallee callee) (h : d.take item = .ok d') :
    ∀ callee ∈ d'.invocation.callee, IsCallee callee := by
  rcases cases_of_take_eq_ok h with ⟨s, -, rfl⟩ | ⟨argument, -, rfl⟩ | ⟨value, -, hne, rfl⟩ |
    ⟨value, unit, -, -, rfl⟩ | ⟨value, filter, -, -, rfl⟩
  · cases s with
    | help | noSwatch | promoteAlpha | dryRun => exact hd
  · exact hd
  · intro callee hcallee
    cases hcallee
    exact ⟨hne, Text.isTrimmed_trim value⟩
  · exact hd
  · exact hd

theorem isCallee_calleeFrom {first : Text} (hfirst : IsCallee first) (value : Option Text) :
    IsCallee (Settings.calleeFrom first value).1 := by
  cases value with
  | none => exact hfirst
  | some value =>
      simp only [Settings.calleeFrom]
      split
      · exact hfirst
      · rename_i hne
        exact ⟨hne, Text.isTrimmed_trim value⟩

theorem isCallee_applyTo {arguments : List Text} {invocation : Invocation}
    (h : ofArguments arguments = .ok invocation) (env : Environment) :
    IsCallee (invocation.applyTo (Settings.ofEnvironment env).1).callee := by
  obtain ⟨d, command, hdraft, rfl⟩ := exists_of_ofArguments_eq_ok h
  have hd : ∀ callee ∈ d.invocation.callee, IsCallee callee :=
    Draft.foldlM_take_induction (P := fun d => ∀ callee ∈ d.invocation.callee, IsCallee callee)
      (fun _ _ _ => Draft.isCallee_take) (by simp) hdraft
  rw [applyTo]
  cases hcallee : d.invocation.callee with
  | none =>
      have hdefault : IsCallee "QColor" := ⟨by decide, by decide⟩
      exact isCallee_calleeFrom hdefault (env "QCOLOR_LENS_CONSTRUCTOR")
  | some callee => exact hd callee hcallee

def withoutLogLevel (invocation : Invocation) : Invocation := { invocation with logLevel := none }

/-- The items are the same, or each asks for a log level that there is. -/
inductive Item.SameButLogLevel : Item → Item → Prop where
  | same (item : Item) : SameButLogLevel item item
  | logLevel {value value' : Text} {filter filter' : LevelFilter}
      (h : logFilter? value = some filter) (h' : logFilter? value' = some filter') :
      SameButLogLevel (.option .logLevel value) (.option .logLevel value')

def SameButLogLevels (arguments arguments' : List Text) : Prop :=
  List.Forall₂ Item.SameButLogLevel (items arguments) (items arguments')

namespace Draft

def withoutLogLevel (d : Draft) : Draft := { d with invocation := d.invocation.withoutLogLevel }

theorem take_withoutLogLevel (d : Draft) (item : Item) :
    (d.withoutLogLevel.take item).map withoutLogLevel = (d.take item).map withoutLogLevel := by
  cases item with
  | switch s => cases s <;> rfl
  | option f value =>
      rw [take, take]
      cases f with
      | callee =>
          simp only [assign]
          split
          · rfl
          · rfl
      | columns =>
          simp only [assign]
          cases ColumnUnit.ofText? value with
          | none => rfl
          | some unit => rfl
      | logLevel =>
          simp only [assign]
          cases logFilter? value with
          | none => rfl
          | some filter => rfl
  | positional argument | incomplete flag | unknown argument => rfl

theorem take_of_sameButLogLevel {d d' : Draft} {item item' : Item}
    (hd : d.withoutLogLevel = d'.withoutLogLevel) (h : item.SameButLogLevel item') :
    (d.take item).map withoutLogLevel = (d'.take item').map withoutLogLevel := by
  cases h with
  | same => rw [← take_withoutLogLevel, hd, take_withoutLogLevel]
  | logLevel h h' =>
      simp only [take, assign, h, h']
      exact congrArg Except.ok hd

theorem foldlM_take_of_sameButLogLevel {d d' : Draft} {l l' : List Item}
    (hd : d.withoutLogLevel = d'.withoutLogLevel) (h : List.Forall₂ Item.SameButLogLevel l l') :
    (l.foldlM take d).map withoutLogLevel = (l'.foldlM take d').map withoutLogLevel := by
  induction h generalizing d d' with
  | nil => exact congrArg Except.ok hd
  | cons hitem _ ih =>
      rw [List.foldlM_cons, List.foldlM_cons]
      exact map_bind_eq_map_bind (take_of_sameButLogLevel hd hitem) fun _ _ => ih

theorem finish_withoutLogLevel (d : Draft) :
    d.withoutLogLevel.finish.map Invocation.withoutLogLevel =
      d.finish.map Invocation.withoutLogLevel := by
  have hcommand : d.withoutLogLevel.command = d.command := rfl
  have hhelp : d.withoutLogLevel.invocation.help = d.invocation.help := rfl
  rw [finish, finish, hcommand, hhelp]
  split
  · rfl
  · cases d.command with
    | error e => rfl
    | ok command => rfl

end Draft

theorem ofArguments_of_sameButLogLevels {arguments arguments' : List Text}
    (h : SameButLogLevels arguments arguments') :
    (ofArguments arguments).map withoutLogLevel =
      (ofArguments arguments').map withoutLogLevel := by
  have hnew : ({} : Draft).withoutLogLevel = ({} : Draft).withoutLogLevel := rfl
  have hdraft := Draft.foldlM_take_of_sameButLogLevel hnew h
  rw [← Draft.absorb_eq_foldlM_items, ← Draft.absorb_eq_foldlM_items] at hdraft
  refine map_bind_eq_map_bind hdraft fun d d' hd => ?_
  rw [← Draft.finish_withoutLogLevel, hd, Draft.finish_withoutLogLevel]

end ColorCalls.Invocation
