import ColorCalls.Arguments
import ColorCalls.Position
import ColorCalls.Text.Quoted

/-! What the library has to say about its own work. A notice is a fact; its level, its origin and
its wording follow from it. -/

namespace ColorCalls

inductive Level where
  | error
  | warn
  | info
  | debug
  | trace
  deriving DecidableEq, Repr

namespace Level

def name : Level → Text
  | .error => "ERROR"
  | .warn => "WARN"
  | .info => "INFO"
  | .debug => "DEBUG"
  | .trace => "TRACE"

def rank : Level → Nat
  | .error => 1
  | .warn => 2
  | .info => 3
  | .debug => 4
  | .trace => 5

end Level

structure Record where
  level : Level
  target : Text
  message : Text
  deriving DecidableEq, Repr

inductive Notice where
  | ruleRejected (rule : Arguments.Rule) (arguments : Text) (rejection : Rejection)
  | callSkipped (call : Text) (start : Nat) (rejection : Rejection)
  | scanned (found : Nat) (callee : Text) (lines : Nat)
  | replacing (call : Text) (start : Position) (replacement : Text)
  | lockRecovered (context : Text)
  | switchIgnored (variableName value : Text)
  | calleeIgnored
  | columnsIgnored (value : Text)
  | swatchWidthIgnored (value : Text) (widest : Nat)
  | nameEntryIgnored (entry : Text)
  | nameColorIgnored (name : Text) (rejection : Rejection)
  | switchedOff
  | sourceScanned (label : Text) (found : Nat)
  deriving DecidableEq, Repr

namespace Notice

def level : Notice → Level
  | .ruleRejected .. | .callSkipped .. => .trace
  | .scanned .. | .replacing .. | .sourceScanned .. => .debug
  | .switchedOff => .info
  | .lockRecovered .. | .switchIgnored .. | .calleeIgnored | .columnsIgnored ..
  | .swatchWidthIgnored .. | .nameEntryIgnored .. | .nameColorIgnored .. => .warn

def target : Notice → Text
  | .ruleRejected .. => "qcolor_lens::codec"
  | .callSkipped .. | .scanned .. => "qcolor_lens::locator"
  | .replacing .. => "qcolor_lens::edit"
  | .lockRecovered .. => "qcolor_lens::sync"
  | .switchIgnored .. | .calleeIgnored | .columnsIgnored .. | .swatchWidthIgnored ..
  | .nameEntryIgnored .. | .nameColorIgnored .. => "qcolor_lens::config"
  | .switchedOff | .sourceScanned .. => "qcolor_lens"

def message : Notice → Text
  | .ruleRejected rule arguments rejection =>
      rule.name ++ " rule rejected " ++ Text.quoted arguments ++ ": " ++ rejection.message
  | .callSkipped call start rejection =>
      "skipping " ++ Text.quoted call ++ " at byte " ++ Text.decimal start ++ ": " ++
        rejection.message
  | .scanned found callee lines =>
      "found " ++ Text.decimal found ++ " " ++ callee ++ " call(s) in " ++ Text.decimal lines ++
        " line(s)"
  | .replacing call start replacement =>
      "replacing " ++ Text.quoted call ++ " at " ++ start.display ++ " with " ++
        Text.quoted replacement
  | .lockRecovered context => "mutex poison recovered at: " ++ context
  | .switchIgnored variableName value =>
      "ignoring " ++ variableName ++ "=" ++ Text.quoted value ++ ": expected a boolean"
  | .calleeIgnored => "ignoring empty QCOLOR_LENS_CONSTRUCTOR"
  | .columnsIgnored value => "ignoring QCOLOR_LENS_COLUMNS: " ++ ColumnUnit.invalid value
  | .swatchWidthIgnored value widest =>
      "ignoring QCOLOR_LENS_SWATCH_WIDTH=" ++ Text.quoted value ++ ": expected 0-" ++
        Text.decimal widest
  | .nameEntryIgnored entry =>
      "ignoring named color " ++ Text.quoted entry ++ ": expected name=color"
  | .nameColorIgnored name rejection =>
      "ignoring named color " ++ Text.quoted name ++ ": " ++ rejection.message
  | .switchedOff => "disabled by QCOLOR_LENS_ENABLED"
  | .sourceScanned label found => label ++ ": " ++ Text.decimal found ++ " match(es)"

def record (n : Notice) : Record := ⟨n.level, n.target, n.message⟩

end Notice

end ColorCalls
