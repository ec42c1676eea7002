import ColorCalls.Position
import ColorCalls.Proofs.Text.Numeral

/-! Positions of the ends of characters stand in the order of their byte offsets, whatever a column
counts (`ofOffset_le_iff`): one more character moves a position on, and moves it on by at most the
bytes that the character takes. -/

namespace ColorCalls

namespace ColumnUnit

theorem width_pos (unit : ColumnUnit) (c : Char) : 0 < unit.width c := by
  cases unit with
  | byte => exact c.utf8Size_pos
  | char => exact Nat.one_pos
  | utf16 =>
      change 0 < Text.units16 c
      unfold Text.units16
      split
      · exact Nat.one_pos
      · exact Nat.two_pos

theorem width_le_utf8Size (unit : ColumnUnit) (c : Char) : unit.width c ≤ c.utf8Size := by
  cases unit with
  | byte => exact Nat.le_refl _
  | char => exact c.utf8Size_pos
  | utf16 =>
      change Text.units16 c ≤ c.utf8Size
      have hpos := c.utf8Size_pos
      unfold Text.units16
      split
      · exact hpos
      · rename_i hlarge
        have hmore : c.utf8Size ≠ 1 := by
          intro hone
          have hsmall := UInt32.le_iff_toNat_le.mp (Char.utf8Size_eq_one_iff.mp hone)
          exact hlarge (Nat.lt_of_le_of_lt hsmall (by decide))
        omega

theorem measure_append (unit : ColumnUnit) (s t : Text) :
    unit.measure (s ++ t) = unit.measure s + unit.measure t := by
  induction s with
  | nil => simp [measure]
  | cons c s ih => simp [measure, ih, Nat.add_assoc]

end ColumnUnit

namespace Position

variable {unit : ColumnUnit} {p q r : Position}

theorem atEnd_append (unit : ColumnUnit) (s t : Text) :
    atEnd unit (s ++ t) = t.foldl (advance unit) (atEnd unit s) := by
  rw [atEnd, List.foldl_append, atEnd]

theorem atEnd_concat (unit : ColumnUnit) (t : Text) (c : Char) :
    atEnd unit (t ++ [c]) = (atEnd unit t).advance unit c :=
  atEnd_append unit t [c]

theorem lineFeed_notMem_display (p : Position) : '\n' ∉ p.display := by
  simp [display, Text.lineFeed_notMem_decimal]

theorem le_refl (p : Position) : p ≤ p := Or.inr ⟨rfl, Nat.le_refl _⟩

theorem le_trans (hpq : p ≤ q) (hqr : q ≤ r) : p ≤ r := by
  rw [le_def] at hpq hqr ⊢
  omega

theorem le_advance (unit : ColumnUnit) (p : Position) (c : Char) : p ≤ p.advance unit c := by
  rw [le_def, advance]
  split
  · exact Or.inl (Nat.lt_succ_self _)
  · exact Or.inr ⟨rfl, Nat.le_add_right _ _⟩

theorem not_advance_le (unit : ColumnUnit) (p : Position) (c : Char) :
    ¬ p.advance unit c ≤ p := by
  have hwidth := unit.width_pos c
  rw [le_def, advance]
  split
  · simp only
    omega
  · simp only
    omega

theorem le_foldl_advance (unit : ColumnUnit) (p : Position) (t : Text) :
    p ≤ t.foldl (advance unit) p := by
  induction t generalizing p with
  | nil => exact le_refl p
  | cons c t ih => exact le_trans (le_advance unit p c) (ih (p.advance unit c))

theorem not_foldl_advance_le (unit : ColumnUnit) (p : Position) {t : Text} (ht : t ≠ []) :
    ¬ t.foldl (advance unit) p ≤ p := by
  cases t with
  | nil => contradiction
  | cons c t =>
      intro hle
      exact not_advance_le unit p c (le_trans (le_foldl_advance unit _ t) hle)

theorem line_add_character_le (unit : ColumnUnit) (p : Position) (t : Text) :
    (t.foldl (advance unit) p).line + (t.foldl (advance unit) p).character ≤
      p.line + p.character + Text.bytes t := by
  induction t generalizing p with
  | nil => exact Nat.le_refl _
  | cons c t ih =>
      have hwidth := unit.width_le_utf8Size c
      have hpos := c.utf8Size_pos
      have hstep : (p.advance unit c).line + (p.advance unit c).character ≤
          p.line + p.character + c.utf8Size := by
        rw [advance]
        split
        · simp only
          omega
        · simp only
          omega
      have hrest := ih (p.advance unit c)
      rw [List.foldl_cons, Text.bytes_cons]
      omega

end Position

/-- The byte offset is that of the end of a character, or of the beginning of the text. -/
def Text.EndsAt (t : Text) (offset : Nat) : Prop :=
  ∃ before after, t = before ++ after ∧ Text.bytes before = offset

namespace Position

variable {unit : ColumnUnit}

theorem ofOffset_bytes (unit : ColumnUnit) (before after : Text) :
    ofOffset unit (before ++ after) (Text.bytes before) = atEnd unit before := by
  rw [ofOffset, Text.takeBytes_append]

theorem ofOffset_le_iff {t : Text} {m n : Nat} (hm : t.EndsAt m) (hn : t.EndsAt n) :
    ofOffset unit t m ≤ ofOffset unit t n ↔ m ≤ n := by
  obtain ⟨s, r, rfl, rfl⟩ := hm
  obtain ⟨s', r', ht, rfl⟩ := hn
  rw [ofOffset_bytes, ht, ofOffset_bytes]
  rcases List.append_eq_append_iff.mp ht with ⟨m, rfl, -⟩ | ⟨m, rfl, -⟩
  · rw [Text.bytes_append, atEnd_append]
    exact iff_of_true (le_foldl_advance unit _ m) (Nat.le_add_right _ _)
  · rw [Text.bytes_append, atEnd_append]
    cases m with
    | nil => exact iff_of_true (le_refl _) (Nat.le_refl _)
    | cons c m =>
        apply iff_of_false (not_foldl_advance_le unit _ (List.cons_ne_nil c m))
        have := c.utf8Size_pos
        rw [Text.bytes_cons]
        omega

end Position

end ColorCalls
