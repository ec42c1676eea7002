import ColorCalls.Invocation
import ColorCalls.Proofs.Checked.Cut
import ColorCalls.Proofs.Codec.Written

namespace ColorCalls

namespace Checked

def plus? (m n : Nat) : Option Nat := if m + n ≤ Text.maxWord then some (m + n) else none

def position? (value : Text) : Option (Except UsageError Position) :=
  match Text.splitFirst? ':' value with
  | none => some (.error (.invalidPosition value))
  | some (line, column) =>
      match Text.word? (Text.trim line), Text.word? (Text.trim column) with
      | some line, some column =>
          if line = 0 ∨ column = 0 then some (.error (.invalidPosition value))
          else do return .ok ⟨← minus? line 1, ← minus? column 1⟩
      | _, _ => some (.error (.invalidPosition value))

def display? (p : Position) : Option Text := do
  return Text.decimal (← plus? p.line 1) ++ ':' :: Text.decimal (← plus? p.character 1)

theorem position?_eq (value : Text) : position? value = some (Invocation.position value) := by
  rw [position?, Invocation.position]
  cases Text.splitFirst? ':' value with
  | none => rfl
  | some parts =>
      obtain ⟨line, column⟩ := parts
      simp only
      cases Text.word? (Text.trim line) with
      | none => rfl
      | some l =>
          cases Text.word? (Text.trim column) with
          | none => cases l <;> rfl
          | some c =>
              cases l with
              | zero => rfl
              | succ l =>
                  cases c with
                  | zero => rfl
                  | succ c => rfl

theorem display?_of_lt {p : Position} (hline : p.line < Text.maxWord)
    (hcharacter : p.character < Text.maxWord) : display? p = some p.display := by
  rw [display?, plus?, plus?, if_pos (Nat.succ_le_of_lt hline),
    if_pos (Nat.succ_le_of_lt hcharacter)]
  rfl

end Checked

namespace Invocation

/-- A number of lines or columns counted from one, as an optional `+` and digits with white space
around them. -/
structure IsCount (t : Text) (n : Nat) : Prop where
  isNumeral : Text.IsNumeral (Text.trim t) n
  unsigned : (Text.trim t).head? ≠ some '-'
  pos : 1 ≤ n
  le : n ≤ Text.maxWord

theorem word?_trim_eq_some_succ_iff {t : Text} {n : Nat} :
    Text.word? (Text.trim t) = some (n + 1) ↔ IsCount t (n + 1) := by
  rw [Text.word?_eq_some_iff]
  constructor
  · rintro ⟨hnumeral, hunsigned, hle⟩
    exact ⟨hnumeral, hunsigned, Nat.le_add_left 1 n, hle⟩
  · rintro ⟨hnumeral, hunsigned, -, hle⟩
    exact ⟨hnumeral, hunsigned, hle⟩

theorem position_eq_ok_iff {value : Text} {p : Position} :
    position value = .ok p ↔
      ∃ line column, value = line ++ ':' :: column ∧ ':' ∉ line ∧
        IsCount line (p.line + 1) ∧ IsCount column (p.character + 1) := by
  constructor
  · intro h
    rw [position] at h
    split at h
    · contradiction
    · rename_i line column hsplit
      split at h
      · rename_i l c hline hcolumn
        cases h
        obtain ⟨hvalue, hcolon⟩ := Text.splitFirst?_eq_some_iff.mp hsplit
        exact ⟨line, column, hvalue, hcolon, word?_trim_eq_some_succ_iff.mp hline,
          word?_trim_eq_some_succ_iff.mp hcolumn⟩
      · contradiction
  · rintro ⟨line, column, rfl, hcolon, hline, hcolumn⟩
    rw [position, Text.splitFirst?_append hcolon]
    simp only [word?_trim_eq_some_succ_iff.mpr hline, word?_trim_eq_some_succ_iff.mpr hcolumn]

theorem position_display {p : Position} (hline : p.line < Text.maxWord)
    (hcharacter : p.character < Text.maxWord) : position p.display = .ok p := by
  have hcolon : ':' ∉ Text.decimal (p.line + 1) := by
    intro hmem
    have hdigit := Text.isDigit_of_mem_decimal hmem
    contradiction
  rw [position, Position.display, Text.splitFirst?_append hcolon]
  simp only [(isTrimmed_decimal _).trim_eq, Text.word?_decimal (Nat.succ_le_of_lt hline),
    Text.word?_decimal (Nat.succ_le_of_lt hcharacter)]

/-- What is read as a position is a line and a column around the first colon, each an optional `+`
and digits for a number from one up to the largest word, with white space around it. The position
counts from zero: taking one away never fails, and neither does adding it again to show what was
read. A position that can be shown is read back from what was shown. -/
theorem positions_are_counts_around_first_colon :
    (∀ (value : Text) (p : Position), position value = .ok p ↔
      ∃ line column l c, value = line ++ ':' :: column ∧ ':' ∉ line ∧
        IsCount line l ∧ IsCount column c ∧ p = ⟨l - 1, c - 1⟩) ∧
    (∀ value : Text, Checked.position? value = some (position value)) ∧
    (∀ (value : Text) (p : Position), position value = .ok p →
      Checked.display? p = some p.display) ∧
    ∀ p : Position, p.line < Text.maxWord → p.character < Text.maxWord →
      position p.display = .ok p := by
  refine ⟨fun value p => ?_, Checked.position?_eq, fun value p h => ?_,
    fun p hline hcharacter => position_display hline hcharacter⟩
  · rw [position_eq_ok_iff]
    constructor
    · rintro ⟨line, column, hvalue, hcolon, hline, hcolumn⟩
      exact ⟨line, column, p.line + 1, p.character + 1, hvalue, hcolon, hline, hcolumn, rfl⟩
    · rintro ⟨line, column, l, c, hvalue, hcolon, hline, hcolumn, rfl⟩
      refine ⟨line, column, hvalue, hcolon, ?_, ?_⟩
      · rwa [Nat.sub_add_cancel hline.pos]
      · rwa [Nat.sub_add_cancel hcolumn.pos]
  · obtain ⟨line, column, -, -, hline, hcolumn⟩ := position_eq_ok_iff.mp h
    exact Checked.display?_of_lt hline.le hcolumn.le

theorem position_in_last_line_of_word :
    let value : Text := "\u2003+0018446744073709551615 :\t2\n"
    let p : Position := ⟨18446744073709551614, 1⟩
    position value = .ok p ∧ Checked.display? p = some p.display ∧
      p.line < Text.maxWord ∧ p.character < Text.maxWord ∧ position p.display = .ok p := by
  intro value p
  have hvalue : position value = .ok p := by decide +kernel
  have hline : p.line < Text.maxWord := by decide
  have hcharacter : p.character < Text.maxWord := by decide
  obtain ⟨-, -, hdisplay, hback⟩ := positions_are_counts_around_first_colon
  exact ⟨hvalue, hdisplay value p hvalue, hline, hcharacter, hback p hline hcharacter⟩

theorem ofArguments_of_set {arguments : List Text} {d : Draft} {path location colorText : Text}
    {p : Position} {picked : PickedColor} (hdraft : Draft.absorb {} arguments = .ok d)
    (hhelp : d.invocation.help = false)
    (hpositionals : d.positionals = ["set".toList, path, location, colorText])
    (hp : position location = .ok p) (hcolor : color colorText = .ok picked) :
    ofArguments arguments =
      .ok { d.invocation with command := some (.set ⟨path, p, picked, d.dryRun⟩) } := by
  have hcommand : d.command = .ok (some (.set ⟨path, p, picked, d.dryRun⟩)) := by
    have hname : ¬ "set".toList = "scan".toList := by decide
    simp only [Draft.command, hpositionals, if_neg hname, if_true, hp, hcolor]
    rfl
  rw [ofArguments, hdraft]
  change d.finish = _
  rw [Draft.finish, hhelp, hcommand]
  rfl

end Invocation

end ColorCalls
