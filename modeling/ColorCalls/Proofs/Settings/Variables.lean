import ColorCalls.Proofs.Settings.Entries

/-! What each environment variable has a say in. A variable that is set to a value that can be read
decides about one field of the settings and about no other; one that is malformed leaves the field
as it is from the start, with a warning (`follows_ofEnvironment`, `warnings_ofEnvironment`). -/

namespace ColorCalls.Settings

def switchWords : Bool → List Text
  | true => ["1", "true", "yes", "on"]
  | false => ["0", "false", "no", "off"]

def unitWords : ColumnUnit → List Text
  | .byte => ["byte", "bytes", "utf8"]
  | .char => ["char", "chars"]
  | .utf16 => ["utf16", "utf-16"]

/-- The value is a word for the switch, in any letter case and with white space around it. -/
def IsSwitch (value : Text) (on : Bool) : Prop := Text.lower (Text.trim value) ∈ switchWords on

def IsUnit (value : Text) (unit : ColumnUnit) : Prop :=
  Text.lower (Text.trim value) ∈ unitWords unit

instance (value : Text) (on : Bool) : Decidable (IsSwitch value on) :=
  inferInstanceAs (Decidable (_ ∈ _))

instance (value : Text) (unit : ColumnUnit) : Decidable (IsUnit value unit) :=
  inferInstanceAs (Decidable (_ ∈ _))

structure IsCalleeValue (value callee : Text) : Prop where
  trim_eq : Text.trim value = callee
  ne_nil : callee ≠ []

structure IsWidth (value : Text) (width : Nat) : Prop where
  isNumeral : Text.IsNumeral (Text.trim value) width
  unsigned : (Text.trim value).head? ≠ some '-'
  le : width ≤ 16

def IsPolicy (value : Text) : AlphaPolicy → Prop
  | .promote => IsSwitch value true
  | .preserve => IsSwitch value false

theorem switch?_eq_some_iff {value : Text} {on : Bool} :
    switch? value = some on ↔ IsSwitch value on := by
  have hswitch : switch? value =
      if IsSwitch value true then some true
      else if IsSwitch value false then some false else none := by
    simp only [switch?, IsSwitch, switchWords, List.mem_cons, List.not_mem_nil, or_false]
  have hdisjoint : ∀ word ∈ switchWords true, word ∉ switchWords false := by decide
  rw [hswitch]
  split
  · rename_i htrue
    cases on with
    | true => exact iff_of_true rfl htrue
    | false => exact iff_of_false nofun (hdisjoint _ htrue)
  · rename_i htrue
    cases on with
    | true => exact iff_of_false (by simp) htrue
    | false => simp

theorem ofText?_eq_some_iff {value : Text} {unit : ColumnUnit} :
    ColumnUnit.ofText? value = some unit ↔ IsUnit value unit := by
  have hunit : ColumnUnit.ofText? value =
      if IsUnit value .byte then some .byte
      else if IsUnit value .char then some .char
      else if IsUnit value .utf16 then some .utf16 else none := by
    simp only [ColumnUnit.ofText?, IsUnit, unitWords, List.mem_cons, List.not_mem_nil, or_false]
  have hsame {other : ColumnUnit} (hother : IsUnit value other) (h : IsUnit value unit) :
      other = unit := by
    have hwords : ∀ word ∈ unitWords other, word ∈ unitWords unit → other = unit := by
      cases other <;> cases unit <;> decide
    exact hwords _ hother h
  have hdecided {other : ColumnUnit} (hother : IsUnit value other) :
      some other = some unit ↔ IsUnit value unit :=
    ⟨fun h => Option.some.inj h ▸ hother, fun h => congrArg some (hsame hother h)⟩
  rw [hunit]
  split
  · rename_i hbyte
    exact hdecided hbyte
  · rename_i hbyte
    split
    · rename_i hchar
      exact hdecided hchar
    · rename_i hchar
      split
      · rename_i hutf16
        exact hdecided hutf16
      · rename_i hutf16
        refine iff_of_false nofun ?_
        cases unit with
        | byte => exact hbyte
        | char => exact hchar
        | utf16 => exact hutf16

def callee? (value : Text) : Option Text :=
  if Text.trim value = [] then none else some (Text.trim value)

theorem callee?_eq_some_iff {value callee : Text} :
    callee? value = some callee ↔ IsCalleeValue value callee := by
  rw [callee?, Option.ite_none_left_eq_some, Option.some_inj]
  constructor
  · rintro ⟨hne, rfl⟩
    exact ⟨rfl, hne⟩
  · rintro ⟨rfl, hne⟩
    exact ⟨hne, rfl⟩

def width? (value : Text) : Option Nat :=
  (Text.word? (Text.trim value)).filter (· ≤ widestSwatch)

theorem width?_eq_some_iff {value : Text} {width : Nat} :
    width? value = some width ↔ IsWidth value width := by
  rw [width?, Option.filter_eq_some_iff, Text.word?_eq_some_iff, decide_eq_true_eq]
  constructor
  · rintro ⟨⟨hnumeral, hunsigned, -⟩, hle⟩
    exact ⟨hnumeral, hunsigned, hle⟩
  · rintro ⟨hnumeral, hunsigned, hle⟩
    exact ⟨⟨hnumeral, hunsigned, Nat.le_trans hle (by decide)⟩, hle⟩

/-- A field with the value of its variable: what the value stands for, or what the field is from the
start if there is no value or one that stands for nothing. -/
inductive SetBy {α : Type} (StandsFor : Text → α → Prop) (first : α) : Option Text → α → Prop where
  | absent : SetBy StandsFor first none first
  | malformed {value : Text} (h : ∀ a, ¬ StandsFor value a) :
      SetBy StandsFor first (some value) first
  | given {value : Text} {a : α} (h : StandsFor value a) : SetBy StandsFor first (some value) a

def IsMalformed {α : Type} (StandsFor : Text → α → Prop) (value : Option Text) : Prop :=
  ∃ text ∈ value, ∀ a, ¬ StandsFor text a

def overlay {α : Type} (read? : Text → Option α) (ignored : Text → Notice) (first : α) :
    Option Text → α × List Notice
  | none => (first, [])
  | some value =>
      match read? value with
      | some a => (a, [])
      | none => (first, [ignored value])

/-- The field is read as its variable says, with one warning if the variable is malformed. -/
structure Overlays {α : Type} (StandsFor : Text → α → Prop) (first : α) (value : Option Text)
    [Decidable (IsMalformed StandsFor value)] (field : α × List Notice) : Prop where
  setBy : SetBy StandsFor first value field.1
  warnings_eq : warnings field.2 = if IsMalformed StandsFor value then 1 else 0

section Overlay

variable {α : Type} {read? : Text → Option α} {StandsFor : Text → α → Prop} {first : α}
  {value : Option Text}

theorem isMalformed_iff (hread : ∀ {value a}, read? value = some a ↔ StandsFor value a) :
    IsMalformed StandsFor value ↔ ∃ text ∈ value, read? text = none := by
  simp only [IsMalformed, Option.eq_none_iff_forall_ne_some, ne_eq, hread]

theorem SetBy.map {β : Type} {StandsFor' : Text → β → Prop} {f : α → β} {a : α}
    (h : SetBy StandsFor first value a)
    (hf : ∀ {value a}, StandsFor value a → StandsFor' value (f a))
    (hexists : ∀ {value b}, StandsFor' value b → ∃ a, StandsFor value a) :
    SetBy StandsFor' (f first) value (f a) := by
  cases h with
  | absent => exact .absent
  | malformed h =>
      refine .malformed fun b hb => ?_
      obtain ⟨a, ha⟩ := hexists hb
      exact h a ha
  | given h => exact .given (hf h)

theorem overlays_overlay [Decidable (IsMalformed StandsFor value)]
    (hread : ∀ {value a}, read? value = some a ↔ StandsFor value a) {ignored : Text → Notice}
    (hlevel : ∀ text, (ignored text).level = .warn) :
    Overlays StandsFor first value (overlay read? ignored first value) := by
  cases value with
  | none => exact ⟨.absent, by simp [overlay, warnings, IsMalformed]⟩
  | some text =>
      rw [overlay]
      cases htext : read? text with
      | some a =>
          have hsound : ¬ IsMalformed StandsFor (some text) := by
            simp [isMalformed_iff hread, htext]
          exact ⟨.given (hread.mp htext), (if_neg hsound).symm⟩
      | none =>
          have hmalformed : IsMalformed StandsFor (some text) := by
            simp [isMalformed_iff hread, htext]
          have hwarning : warnings [ignored text] = 1 := by simp [warnings, hlevel]
          have hnothing : ∀ a, ¬ StandsFor text a := by simpa [IsMalformed] using hmalformed
          exact ⟨.malformed hnothing, hwarning.trans (if_pos hmalformed).symm⟩

end Overlay

instance (value : Option Text) : Decidable (IsMalformed IsSwitch value) :=
  decidable_of_iff _ (isMalformed_iff switch?_eq_some_iff).symm

instance (value : Option Text) : Decidable (IsMalformed IsCalleeValue value) :=
  decidable_of_iff _ (isMalformed_iff callee?_eq_some_iff).symm

instance (value : Option Text) : Decidable (IsMalformed IsUnit value) :=
  decidable_of_iff _ (isMalformed_iff ofText?_eq_some_iff).symm

instance (value : Option Text) : Decidable (IsMalformed IsWidth value) :=
  decidable_of_iff _ (isMalformed_iff width?_eq_some_iff).symm

theorem overlays_switchFrom (variableName : Text) (first : Bool) (value : Option Text) :
    Overlays IsSwitch first value (switchFrom variableName first value) := by
  have hoverlay : switchFrom variableName first value =
      overlay switch? (.switchIgnored variableName) first value := by
    cases value with
    | none => rfl
    | some value =>
        rw [switchFrom, overlay]
        cases switch? value <;> rfl
  rw [hoverlay]
  exact overlays_overlay switch?_eq_some_iff fun _ => rfl

theorem overlays_calleeFrom (first : Text) (value : Option Text) :
    Overlays IsCalleeValue first value (calleeFrom first value) := by
  have hoverlay : calleeFrom first value =
      overlay callee? (fun _ => .calleeIgnored) first value := by
    cases value with
    | none => rfl
    | some value =>
        rw [calleeFrom, overlay, callee?]
        split <;> rfl
  rw [hoverlay]
  exact overlays_overlay callee?_eq_some_iff fun _ => rfl

theorem overlays_unitFrom (first : ColumnUnit) (value : Option Text) :
    Overlays IsUnit first value (unitFrom first value) := by
  have hoverlay : unitFrom first value =
      overlay ColumnUnit.ofText? .columnsIgnored first value := by
    cases value with
    | none => rfl
    | some value =>
        rw [unitFrom, overlay]
        cases ColumnUnit.ofText? value <;> rfl
  rw [hoverlay]
  exact overlays_overlay ofText?_eq_some_iff fun _ => rfl

theorem overlays_swatchWidthFrom (first : Nat) (value : Option Text) :
    Overlays IsWidth first value (swatchWidthFrom first value) := by
  have hoverlay : swatchWidthFrom first value =
      overlay width? (.swatchWidthIgnored · widestSwatch) first value := by
    cases value with
    | none => rfl
    | some value =>
        rw [swatchWidthFrom, overlay, width?]
        cases (Text.word? (Text.trim value)).filter (· ≤ widestSwatch) <;> rfl
  rw [hoverlay]
  exact overlays_overlay width?_eq_some_iff fun _ => rfl

inductive Variable where
  | enabled
  | callee
  | columns
  | swatchWidth
  | promoteAlpha
  | names
  deriving DecidableEq, Repr

namespace Variable

def name : Variable → Text
  | .enabled => "QCOLOR_LENS_ENABLED"
  | .callee => "QCOLOR_LENS_CONSTRUCTOR"
  | .columns => "QCOLOR_LENS_COLUMNS"
  | .swatchWidth => "QCOLOR_LENS_SWATCH_WIDTH"
  | .promoteAlpha => "QCOLOR_LENS_PROMOTE_ALPHA"
  | .names => "QCOLOR_LENS_NAMED"

def Agree (s s' : Settings) : Variable → Prop
  | .enabled => s.enabled = s'.enabled
  | .callee => s.callee = s'.callee
  | .columns => s.unit = s'.unit
  | .swatchWidth => s.swatchWidth = s'.swatchWidth
  | .promoteAlpha => s.policy = s'.policy
  | .names => s.names = s'.names

/-- How much of the variable is malformed: its value as a whole, or its entries one by one. -/
def malformed (env : Environment) (v : Variable) : Nat :=
  match v with
  | .enabled | .promoteAlpha => if IsMalformed IsSwitch (env v.name) then 1 else 0
  | .callee => if IsMalformed IsCalleeValue (env v.name) then 1 else 0
  | .columns => if IsMalformed IsUnit (env v.name) then 1 else 0
  | .swatchWidth => if IsMalformed IsWidth (env v.name) then 1 else 0
  | .names => (entriesOf (env v.name)).countP fun entry => IsMalformedEntry entry

end Variable

structure Follows (env : Environment) (s : Settings) : Prop where
  enabled : SetBy IsSwitch true (env Variable.enabled.name) s.enabled
  callee : SetBy IsCalleeValue "QColor" (env Variable.callee.name) s.callee
  unit : SetBy IsUnit .utf16 (env Variable.columns.name) s.unit
  swatchWidth : SetBy IsWidth 2 (env Variable.swatchWidth.name) s.swatchWidth
  policy : SetBy IsPolicy .preserve (env Variable.promoteAlpha.name) s.policy
  names : Tabulates .standard (entriesOf (env Variable.names.name)) s.names

theorem agree_ofEnvironment {env env' : Environment} {v : Variable} (h : env v.name = env' v.name) :
    v.Agree (ofEnvironment env).1 (ofEnvironment env').1 := by
  cases v with
  | enabled => exact congrArg (fun value => (switchFrom Variable.enabled.name true value).1) h
  | callee => exact congrArg (fun value => (calleeFrom "QColor" value).1) h
  | columns => exact congrArg (fun value => (unitFrom .utf16 value).1) h
  | swatchWidth => exact congrArg (fun value => (swatchWidthFrom 2 value).1) h
  | promoteAlpha =>
      exact congrArg
        (fun value => policyOfSwitch (switchFrom Variable.promoteAlpha.name false value).1) h
  | names => exact congrArg (fun value => (namesFrom .standard value).1) h

theorem isPolicy_policyOfSwitch {value : Text} {on : Bool} (h : IsSwitch value on) :
    IsPolicy value (policyOfSwitch on) := by
  cases on with
  | true => exact h
  | false => exact h

theorem exists_isSwitch_of_isPolicy {value : Text} {policy : AlphaPolicy}
    (h : IsPolicy value policy) : ∃ on, IsSwitch value on := by
  cases policy with
  | promote => exact ⟨true, h⟩
  | preserve => exact ⟨false, h⟩

theorem follows_ofEnvironment (env : Environment) : Follows env (ofEnvironment env).1 where
  enabled := (overlays_switchFrom _ _ _).setBy
  callee := (overlays_calleeFrom _ _).setBy
  unit := (overlays_unitFrom _ _).setBy
  swatchWidth := (overlays_swatchWidthFrom _ _).setBy
  policy := by
    have hswitch := (overlays_switchFrom Variable.promoteAlpha.name false
      (env Variable.promoteAlpha.name)).setBy
    exact hswitch.map isPolicy_policyOfSwitch exists_isSwitch_of_isPolicy
  names := by
    have hnames := tabulates_insertAll .standard (entriesOf (env Variable.names.name))
    rwa [← (namesFrom_eq _ _).1] at hnames

theorem warnings_ofEnvironment (env : Environment) :
    warnings (ofEnvironment env).2 =
      Variable.enabled.malformed env + Variable.callee.malformed env +
        Variable.columns.malformed env + Variable.swatchWidth.malformed env +
        Variable.promoteAlpha.malformed env + Variable.names.malformed env := by
  have henabled := (overlays_switchFrom Variable.enabled.name true
    (env Variable.enabled.name)).warnings_eq
  have hcallee := (overlays_calleeFrom "QColor" (env Variable.callee.name)).warnings_eq
  have hunit := (overlays_unitFrom .utf16 (env Variable.columns.name)).warnings_eq
  have hwidth := (overlays_swatchWidthFrom 2 (env Variable.swatchWidth.name)).warnings_eq
  have hpromote := (overlays_switchFrom Variable.promoteAlpha.name false
    (env Variable.promoteAlpha.name)).warnings_eq
  have hnames := (namesFrom_eq .standard (env Variable.names.name)).2
  have hnotices : (ofEnvironment env).2 =
      (switchFrom Variable.enabled.name true (env Variable.enabled.name)).2 ++
        (calleeFrom "QColor" (env Variable.callee.name)).2 ++
        (unitFrom .utf16 (env Variable.columns.name)).2 ++
        (swatchWidthFrom 2 (env Variable.swatchWidth.name)).2 ++
        (switchFrom Variable.promoteAlpha.name false (env Variable.promoteAlpha.name)).2 ++
        (namesFrom .standard (env Variable.names.name)).2 := rfl
  rw [hnotices]
  simp only [warnings_append, henabled, hcallee, hunit, hwidth, hpromote, hnames,
    Variable.malformed]

end ColorCalls.Settings
