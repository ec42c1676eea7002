import ColorCalls.Edit
import ColorCalls.Environment
import ColorCalls.Text.Split

/-! Settings and the environment variables that change them. Each variable has a say in one setting
only; a value that cannot be read is noticed and leaves the setting as it was. -/

namespace ColorCalls

structure Settings where
  enabled : Bool := true
  callee : Text := "QColor"
  unit : ColumnUnit := .utf16
  swatchWidth : Nat := 2
  policy : AlphaPolicy := .preserve
  names : ColorNames := ColorNames.standard

namespace Settings

def widestSwatch : Nat := 16

def isDefault (s : Settings) : Bool :=
  s.enabled && s.callee == "QColor" && s.unit == .utf16 && s.swatchWidth == 2 &&
    s.policy == .preserve && s.names.sameAs ColorNames.standard

def withEnabled (s : Settings) (enabled : Bool) : Settings := { s with enabled := enabled }

def withCallee (s : Settings) (callee : Text) : Settings := { s with callee := callee }

def withUnit (s : Settings) (unit : ColumnUnit) : Settings := { s with unit := unit }

def withSwatchWidth (s : Settings) (width : Nat) : Settings :=
  { s with swatchWidth := min width widestSwatch }

def withPolicy (s : Settings) (policy : AlphaPolicy) : Settings := { s with policy := policy }

def withName (s : Settings) (name : Text) (color : Rgb) : Settings :=
  { s with names := s.names.insert name color }

def codec (s : Settings) : Codec := { callee := s.callee, names := s.names }

def locator (s : Settings) : Locator := { codec := s.codec, unit := s.unit }

def switch? (value : Text) : Option Bool :=
  let word := Text.lower (Text.trim value)
  if word = "1" ∨ word = "true" ∨ word = "yes" ∨ word = "on" then some true
  else if word = "0" ∨ word = "false" ∨ word = "no" ∨ word = "off" then some false
  else none

/-- A switch set by a variable, or its first value. -/
def switchFrom (variableName : Text) (first : Bool) : Option Text → Bool × List Notice
  | none => (first, [])
  | some value =>
      match switch? value with
      | some on => (on, [])
      | none => (first, [.switchIgnored variableName value])

def calleeFrom (first : Text) : Option Text → Text × List Notice
  | none => (first, [])
  | some value =>
      let callee := Text.trim value
      if callee = [] then (first, [.calleeIgnored]) else (callee, [])

def unitFrom (first : ColumnUnit) : Option Text → ColumnUnit × List Notice
  | none => (first, [])
  | some value =>
      match ColumnUnit.ofText? value with
      | some unit => (unit, [])
      | none => (first, [.columnsIgnored value])

def swatchWidthFrom (first : Nat) : Option Text → Nat × List Notice
  | none => (first, [])
  | some value =>
      match (Text.word? (Text.trim value)).filter (· ≤ widestSwatch) with
      | some width => (width, [])
      | none => (first, [.swatchWidthIgnored value widestSwatch])

/-- The argument text that an entry's color stands for: hexadecimal colors go without quotes. -/
def entryArguments (color : Text) : Text :=
  if color.head? = some '#' then '"' :: color ++ ['"'] else color

/-- Names read so far, with the codec that reads their colors. It knows no names itself. -/
structure NamesRead where
  names : ColorNames
  codec : Codec := { names := .empty }
  notices : List Notice := []

def NamesRead.entry (read : NamesRead) (entry : Text) : NamesRead :=
  match Text.splitFirst? '=' entry with
  | none => { read with notices := read.notices ++ [.nameEntryIgnored entry] }
  | some (name, color) =>
      let parsed := read.codec.parse (entryArguments (Text.trim color))
      match parsed.result with
      | .ok color =>
          { names := read.names.insert (Text.trim name) color.toRgb
            codec := parsed.codec
            notices := read.notices ++ parsed.notices }
      | .error rejection =>
          { names := read.names
            codec := parsed.codec
            notices := read.notices ++ parsed.notices ++ [.nameColorIgnored name rejection] }

def nameEntries (value : Text) : List Text :=
  ((value.splitOn ';').map Text.trim).filter (· ≠ [])

def namesFrom (first : ColorNames) : Option Text → ColorNames × List Notice
  | none => (first, [])
  | some value =>
      let read := (nameEntries value).foldl NamesRead.entry { names := first }
      (read.names, read.notices)

def policyOfSwitch (promote : Bool) : AlphaPolicy := if promote then .promote else .preserve

def ofEnvironment (env : Environment) : Settings × List Notice :=
  let first : Settings := {}
  let (enabled, n₁) := switchFrom "QCOLOR_LENS_ENABLED" first.enabled (env "QCOLOR_LENS_ENABLED")
  let (callee, n₂) := calleeFrom first.callee (env "QCOLOR_LENS_CONSTRUCTOR")
  let (unit, n₃) := unitFrom first.unit (env "QCOLOR_LENS_COLUMNS")
  let (width, n₄) := swatchWidthFrom first.swatchWidth (env "QCOLOR_LENS_SWATCH_WIDTH")
  let (promote, n₅) :=
    switchFrom "QCOLOR_LENS_PROMOTE_ALPHA" false (env "QCOLOR_LENS_PROMOTE_ALPHA")
  let (names, n₆) := namesFrom first.names (env "QCOLOR_LENS_NAMED")
  ({ enabled := enabled
     callee := callee
     unit := unit
     swatchWidth := width
     policy := policyOfSwitch promote
     names := names },
    n₁ ++ n₂ ++ n₃ ++ n₄ ++ n₅ ++ n₆)

end Settings

end ColorCalls
