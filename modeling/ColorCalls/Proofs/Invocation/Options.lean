import ColorCalls.Proofs.Invocation.Items
import ColorCalls.Proofs.Settings.Variables
import Mathlib.Data.List.Induction

/-! Options laid over the settings of an environment. Of several values for one option the last one
counts (`Draft.decides_foldlM_take`), and without any the environment has the say
(`settings_follow_variables_and_options`). -/

namespace ColorCalls.Invocation

open Settings

def Item.value? (f : ValuedFlag) : Item → Option Text
  | .option g value => if g = f then some value else none
  | .switch _ | .positional _ | .incomplete _ | .unknown _ => none

def lastValue? (f : ValuedFlag) (l : List Item) : Option Text :=
  (l.filterMap (Item.value? f)).getLast?

theorem lastValue?_concat (f : ValuedFlag) (l : List Item) (item : Item) :
    lastValue? f (l ++ [item]) = (item.value? f).or (lastValue? f l) := by
  rw [lastValue?, List.filterMap_append, List.getLast?_append]
  cases hvalue : item.value? f with
  | none => rw [List.filterMap_cons_none hvalue, List.filterMap_nil, List.getLast?_nil, lastValue?]
  | some value =>
      rw [List.filterMap_cons_some hvalue, List.filterMap_nil, List.getLast?_singleton, lastValue?]

/-- A field after an option was given the value, or kept as it was without one. -/
inductive Decides {α : Type} (StandsFor : Text → α → Prop) (before : α) :
    Option Text → α → Prop where
  | kept : Decides StandsFor before none before
  | given {value : Text} {a : α} (h : StandsFor value a) :
      Decides StandsFor before (some value) a

theorem Decides.or {α : Type} {StandsFor : Text → α → Prop} {a b c : α} {value value' : Option Text}
    (h : Decides StandsFor a value b) (h' : Decides StandsFor b value' c) :
    Decides StandsFor a (value'.or value) c := by
  cases h' with
  | kept => exact h
  | given h' => exact .given h'

theorem Decides.getD {α : Type} {StandsFor : Text → α → Prop} {value : Option Text} {o : Option α}
    (h : Decides (fun value o => ∃ a ∈ o, StandsFor value a) none value o) (before : α) :
    Decides StandsFor before value (o.getD before) := by
  cases h with
  | kept => exact .kept
  | given h =>
      obtain ⟨a, rfl, h⟩ := h
      exact .given h

namespace Draft

variable {d d' : Draft} {item : Item} {l : List Item}

theorem decides_foldlM_take {α : Type} {StandsFor : Text → α → Prop} {f : ValuedFlag}
    (field : Draft → α)
    (hstep : ∀ {d d' item}, take d item = .ok d' →
      Decides StandsFor (field d) (item.value? f) (field d'))
    (h : l.foldlM take d = .ok d') : Decides StandsFor (field d) (lastValue? f l) (field d') := by
  induction l using List.reverseRecOn generalizing d' with
  | nil =>
      cases h
      exact .kept
  | append_singleton l item ih =>
      rw [List.foldlM_append] at h
      obtain ⟨next, hnext, hlast⟩ := exists_of_bind_eq_ok h
      rw [List.foldlM_cons] at hlast
      obtain ⟨last, hitem, hdone⟩ := exists_of_bind_eq_ok hlast
      cases hdone
      rw [lastValue?_concat]
      exact (ih hnext).or (hstep hitem)

theorem callee_take (h : d.take item = .ok d') :
    Decides (fun value o => ∃ callee ∈ o, IsCalleeValue value callee) d.invocation.callee
      (item.value? .callee) d'.invocation.callee := by
  rcases cases_of_take_eq_ok h with ⟨s, rfl, rfl⟩ | ⟨argument, rfl, rfl⟩ |
    ⟨value, rfl, hne, rfl⟩ | ⟨value, unit, rfl, -, rfl⟩ | ⟨value, filter, rfl, -, rfl⟩
  · cases s with
    | help | noSwatch | promoteAlpha | dryRun => exact .kept
  · exact .kept
  · exact .given ⟨_, rfl, rfl, hne⟩
  · exact .kept
  · exact .kept

theorem columns_take (h : d.take item = .ok d') :
    Decides (fun value o => ∃ unit ∈ o, IsUnit value unit) d.invocation.columns
      (item.value? .columns) d'.invocation.columns := by
  rcases cases_of_take_eq_ok h with ⟨s, rfl, rfl⟩ | ⟨argument, rfl, rfl⟩ |
    ⟨value, rfl, -, rfl⟩ | ⟨value, unit, rfl, hunit, rfl⟩ | ⟨value, filter, rfl, -, rfl⟩
  · cases s with
    | help | noSwatch | promoteAlpha | dryRun => exact .kept
  · exact .kept
  · exact .kept
  · exact .given ⟨unit, rfl, ofText?_eq_some_iff.mp hunit⟩
  · exact .kept

theorem logLevel_take (h : d.take item = .ok d') :
    Decides (fun value filter => logFilter? value = some filter) d.invocation.logLevel
      (item.value? .logLevel) d'.invocation.logLevel := by
  rcases cases_of_take_eq_ok h with ⟨s, rfl, rfl⟩ | ⟨argument, rfl, rfl⟩ |
    ⟨value, rfl, -, rfl⟩ | ⟨value, unit, rfl, -, rfl⟩ | ⟨value, filter, rfl, hfilter, rfl⟩
  · cases s with
    | help | noSwatch | promoteAlpha | dryRun => exact .kept
  · exact .kept
  · exact .kept
  · exact .kept
  · exact .given hfilter

end Draft

/-- The settings are those of `s`, apart from what the arguments have a say in. -/
structure LaidOver (arguments : List Text) (s laid : Settings) : Prop where
  callee : Decides IsCalleeValue s.callee (lastValue? .callee (items arguments)) laid.callee
  unit : Decides IsUnit s.unit (lastValue? .columns (items arguments)) laid.unit
  policy :
    laid.policy = if .switch .promoteAlpha ∈ items arguments then .promote else s.policy
  enabled : laid.enabled = s.enabled
  swatchWidth : laid.swatchWidth = s.swatchWidth
  names : laid.names = s.names

theorem laidOver_applyTo {arguments : List Text} {invocation : Invocation}
    (h : ofArguments arguments = .ok invocation) (s : Settings) :
    LaidOver arguments s (invocation.applyTo s) := by
  obtain ⟨d, command, hdraft, rfl⟩ := exists_of_ofArguments_eq_ok h
  have hcallee := Draft.decides_foldlM_take (fun d => d.invocation.callee)
    Draft.callee_take hdraft
  have hunit := Draft.decides_foldlM_take (fun d => d.invocation.columns)
    Draft.columns_take hdraft
  have hpromote : d.invocation.promoteAlpha = true ↔ .switch .promoteAlpha ∈ items arguments := by
    simpa [Draft.IsOn] using Draft.isOn_foldlM_take hdraft .promoteAlpha
  exact {
    callee := hcallee.getD s.callee
    unit := hunit.getD s.unit
    policy := by simp only [applyTo, hpromote]
    enabled := rfl
    swatchWidth := rfl
    names := rfl }

theorem swatchWidth_le_of_follows {env : Environment} {s : Settings} (h : Follows env s) :
    s.swatchWidth ≤ 16 := by
  have hwidth := h.swatchWidth
  generalize s.swatchWidth = width at hwidth
  generalize env Variable.swatchWidth.name = value at hwidth
  cases hwidth with
  | absent | malformed _ => decide
  | given h => exact h.le

/-- Each environment variable has a say in its own field of the settings and in no other, and if it
is malformed, in none; then there is a warning, and there are no other warnings. The options of a
command line go before the variables. -/
theorem settings_follow_variables_and_options (env : Environment) :
    Follows env (ofEnvironment env).1 ∧
    (∀ (v : Variable) (env' : Environment), env v.name = env' v.name →
      v.Agree (ofEnvironment env).1 (ofEnvironment env').1) ∧
    warnings (ofEnvironment env).2 =
      Variable.enabled.malformed env + Variable.callee.malformed env +
        Variable.columns.malformed env + Variable.swatchWidth.malformed env +
        Variable.promoteAlpha.malformed env + Variable.names.malformed env ∧
    ∀ arguments invocation, ofArguments arguments = .ok invocation →
      LaidOver arguments (ofEnvironment env).1 (invocation.applyTo (ofEnvironment env).1) ∧
      IsCallee (invocation.applyTo (ofEnvironment env).1).callee ∧
      (invocation.applyTo (ofEnvironment env).1).swatchWidth ≤ 16 := by
  have hfollows := follows_ofEnvironment env
  refine ⟨hfollows, fun v env' => agree_ofEnvironment, warnings_ofEnvironment env, ?_⟩
  intro arguments invocation h
  have hlaid := laidOver_applyTo h (ofEnvironment env).1
  refine ⟨hlaid, isCallee_applyTo h env, ?_⟩
  rw [hlaid.swatchWidth]
  exact swatchWidth_le_of_follows hfollows

theorem last_column_option_goes_before_variable :
    let env : Environment := fun variableName =>
      if variableName = "QCOLOR_LENS_ENABLED" then some "maybe"
      else if variableName = "QCOLOR_LENS_COLUMNS" then some " Bytes "
      else if variableName = "QCOLOR_LENS_SWATCH_WIDTH" then some "17"
      else if variableName = "QCOLOR_LENS_NAMED" then some "teal=0,128,128; ;oops;red=#12"
      else none
    let arguments : List Text := ["--columns", "char", "--promote-alpha", "--columns", "UTF-16"]
    let invocation : Invocation := { columns := some .utf16, promoteAlpha := true }
    ofArguments arguments = .ok invocation ∧
      LaidOver arguments (ofEnvironment env).1 (invocation.applyTo (ofEnvironment env).1) ∧
      warnings (ofEnvironment env).2 = 4 ∧
      (ofEnvironment env).1.unit = (ofEnvironment fun _ => some " Bytes ").1.unit := by
  intro env arguments invocation
  have hunderstood : ofArguments arguments = .ok invocation := by decide +kernel
  obtain ⟨-, hagree, hwarnings, hlaid⟩ := settings_follow_variables_and_options env
  exact ⟨hunderstood, (hlaid arguments invocation hunderstood).1,
    hwarnings.trans (by decide +kernel), hagree .columns (fun _ => some " Bytes ") rfl⟩

end ColorCalls.Invocation
