import ColorCalls.Proofs.Checked.Lines
import ColorCalls.Text.Split
import Mathlib.Algebra.GroupWithZero.Nat

namespace ColorCalls

namespace Text

theorem afterLast_concat (sep : Char) (t : Text) (c : Char) :
    afterLast sep (t ++ [c]) = if c = sep then [] else afterLast sep t ++ [c] := by
  rw [afterLast, List.reverse_concat]
  split
  · rename_i hc
    rw [List.takeWhile_cons_of_neg (by simpa using hc), List.reverse_nil]
  · rename_i hc
    rw [List.takeWhile_cons_of_pos (by simpa using hc), List.reverse_cons, afterLast]

end Text

namespace ColumnUnit

theorem measure_byte (t : Text) : ColumnUnit.byte.measure t = Text.bytes t := by
  induction t with
  | nil => rfl
  | cons c t ih => rw [measure, ih, Text.bytes_cons, width]

theorem measure_char (t : Text) : ColumnUnit.char.measure t = t.length := by
  induction t with
  | nil => rfl
  | cons c t ih => rw [measure, ih, List.length_cons, width, Nat.add_comm]

theorem measure_utf16 (t : Text) : ColumnUnit.utf16.measure t = (t.map Text.units16).sum := by
  induction t with
  | nil => rfl
  | cons c t ih => rw [measure, ih, List.map_cons, List.sum_cons, width]

end ColumnUnit

namespace Position

variable {unit : ColumnUnit} {t : Text}

theorem atEnd_eq (unit : ColumnUnit) (t : Text) :
    atEnd unit t = ⟨t.count '\n', unit.measure (Text.afterLast '\n' t)⟩ := by
  induction t using List.reverseRecOn with
  | nil => rfl
  | append_singleton t c ih =>
      rw [atEnd_concat, ih, advance, Text.afterLast_concat, List.count_append]
      by_cases hc : c = '\n'
      · subst hc
        rfl
      · rw [if_neg hc, if_neg hc, ColumnUnit.measure_append, List.count_singleton,
          if_neg (by simpa using hc)]
        rfl

theorem line_atEnd (unit : ColumnUnit) (t : Text) : (atEnd unit t).line = t.count '\n' := by
  rw [atEnd_eq]

theorem ofOffset_bytes_takeBytes (unit : ColumnUnit) (t : Text) (offset : Nat) :
    ofOffset unit t (Text.bytes (Text.takeBytes offset t)) = ofOffset unit t offset := by
  obtain ⟨rest, ht⟩ := Text.takeBytes_isPrefix offset t
  have hbytes := ofOffset_bytes unit (Text.takeBytes offset t) rest
  rwa [ht] at hbytes

theorem ofOffset_mono {m n : Nat} (h : m ≤ n) : ofOffset unit t m ≤ ofOffset unit t n := by
  rw [← ofOffset_bytes_takeBytes unit t m, ← ofOffset_bytes_takeBytes unit t n,
    ofOffset_le_iff (Text.endsAt_takeBytes m t) (Text.endsAt_takeBytes n t)]
  exact (Text.endsAt_takeBytes m t).le_bytes_takeBytes
    (Nat.le_trans (Text.bytes_takeBytes_le m t) h)

/-- An offset stands for the last end of a character that it reaches. Its line is the number of line
feeds before that, its column measures what follows the last of them, and the table of lines gives
the same place. -/
theorem ofOffset_counts_lineFeeds (unit : ColumnUnit) (t : Text) :
    (∀ offset, ∃ before after, t = before ++ after ∧
      Text.bytes before ≤ min offset (Text.bytes t) ∧
      (∀ n, t.EndsAt n → n ≤ min offset (Text.bytes t) → n ≤ Text.bytes before) ∧
      (ofOffset unit t offset).line = before.count '\n' ∧
      (ofOffset unit t offset).character = unit.measure (Text.afterLast '\n' before) ∧
      (Checked.LineIndex.ofText unit t).position? offset = some (ofOffset unit t offset)) ∧
    (∀ line, ColumnUnit.byte.measure line = Text.bytes line ∧
      ColumnUnit.char.measure line = line.length ∧
      ColumnUnit.utf16.measure line = (line.map Text.units16).sum) ∧
    indexedLines t = t.count '\n' + 1 ∧
    (Checked.LineIndex.ofText unit t).starts.length = indexedLines t ∧
    ∀ m n, m ≤ n → ofOffset unit t m ≤ ofOffset unit t n := by
  refine ⟨fun offset => ?_, fun line => ?_, rfl, ?_, fun m n => ofOffset_mono⟩
  · obtain ⟨after, ht⟩ := Text.takeBytes_isPrefix offset t
    refine ⟨Text.takeBytes offset t, after, ht.symm, ?_, ?_, ?_, ?_,
      Checked.position?_ofText unit t offset⟩
    · exact Nat.le_min.mpr
        ⟨Text.bytes_takeBytes_le offset t, (Text.endsAt_takeBytes offset t).le_bytes⟩
    · exact fun n hn hle => hn.le_bytes_takeBytes (Nat.le_trans hle (Nat.min_le_left _ _))
    · rw [ofOffset, atEnd_eq]
    · rw [ofOffset, atEnd_eq]
  · exact ⟨ColumnUnit.measure_byte line, ColumnUnit.measure_char line,
      ColumnUnit.measure_utf16 line⟩
  · rw [Checked.LineIndex.ofText, List.length_cons, Checked.length_startsFrom, indexedLines]

end Position

end ColorCalls
