import ColorCalls.Text.Blank
import ColorCalls.Text.Letters
import ColorCalls.Text.Numeral

/-! Places in a text: a byte offset, or a line and a column. Lines end at a line feed only. A column
counts bytes, characters or UTF-16 units from the beginning of its line. -/

namespace ColorCalls

inductive ColumnUnit where
  | byte
  | char
  | utf16
  deriving DecidableEq, Repr

namespace ColumnUnit

def all : List ColumnUnit := [.byte, .char, .utf16]

def name : ColumnUnit → Text
  | .byte => "byte"
  | .char => "char"
  | .utf16 => "utf16"

def width : ColumnUnit → Char → Nat
  | .byte, c => c.utf8Size
  | .char, _ => 1
  | .utf16, c => Text.units16 c

/-- The columns that a text without line feeds takes. -/
def measure (unit : ColumnUnit) : Text → Nat
  | [] => 0
  | c :: r => unit.width c + measure unit r

def ofText? (t : Text) : Option ColumnUnit :=
  let word := Text.lower (Text.trim t)
  if word = "byte" ∨ word = "bytes" ∨ word = "utf8" then some .byte
  else if word = "char" ∨ word = "chars" then some .char
  else if word = "utf16" ∨ word = "utf-16" then some .utf16
  else none

def invalid (t : Text) : Text :=
  "Invalid column unit `" ++ t ++ "` (expected: " ++ ['|'].intercalate (all.map name) ++ ")."

end ColumnUnit

/-- A line and a column, both counted from zero. -/
structure Position where
  line : Nat
  character : Nat
  deriving DecidableEq, Repr

namespace Position

instance : LE Position where
  le p q := p.line < q.line ∨ p.line = q.line ∧ p.character ≤ q.character

instance (p q : Position) : Decidable (p ≤ q) :=
  inferInstanceAs (Decidable (p.line < q.line ∨ p.line = q.line ∧ p.character ≤ q.character))

theorem le_def {p q : Position} :
    p ≤ q ↔ p.line < q.line ∨ p.line = q.line ∧ p.character ≤ q.character := Iff.rfl

/-- The form `LINE:COLUMN`, both counted from one. -/
def display (p : Position) : Text :=
  Text.decimal (p.line + 1) ++ ':' :: Text.decimal (p.character + 1)

def advance (unit : ColumnUnit) (p : Position) (c : Char) : Position :=
  if c = '\n' then ⟨p.line + 1, 0⟩ else ⟨p.line, p.character + unit.width c⟩

def atEnd (unit : ColumnUnit) (t : Text) : Position := t.foldl (advance unit) ⟨0, 0⟩

/-- The position of a byte offset. An offset inside a character stands for the beginning of that
character, and one past the end for the end. -/
def ofOffset (unit : ColumnUnit) (t : Text) (offset : Nat) : Position :=
  atEnd unit (Text.takeBytes offset t)

end Position

/-- The byte offset of a position. There is none past the last line, past the end of the line or
inside a character. -/
def Position.offset? (unit : ColumnUnit) : Position → Text → Option Nat
  | ⟨0, 0⟩, _ => some 0
  | _, [] => none
  | ⟨0, n + 1⟩, c :: r =>
      if c ≠ '\n' ∧ unit.width c ≤ n + 1 then
        (offset? unit ⟨0, n + 1 - unit.width c⟩ r).map (c.utf8Size + ·)
      else none
  | ⟨l + 1, n⟩, c :: r =>
      (offset? unit ⟨if c = '\n' then l else l + 1, n⟩ r).map (c.utf8Size + ·)

/-- The number of lines, the one after the last line feed included even when it is empty. -/
def indexedLines (t : Text) : Nat := t.count '\n' + 1

end ColorCalls
