import ColorCalls.Text.GraphemeExtend
import ColorCalls.Text.Numeral
import ColorCalls.Text.Unprintable

/-! Quoted form of a text for messages. Every character that a terminal would act on, hide or merge
with its neighbour is written as an escape, so a quoted text stays on one line
(`lineFeed_notMem_quoted`). -/

namespace ColorCalls.Text

def codePointEscape (c : Char) : Text :=
  ['\\', 'u', '\x7b'] ++ hexadecimal c.toNat ++ ['\x7d']

def escaped (c : Char) : Text :=
  if c = '"' then ['\\', '"']
  else if c = '\\' then ['\\', '\\']
  else if c = '\n' then ['\\', 'n']
  else if c = '\r' then ['\\', 'r']
  else if c = '\t' then ['\\', 't']
  else if c = '\x00' then ['\\', '0']
  else if isUnprintable c || isGraphemeExtend c then codePointEscape c
  else [c]

def quoted (t : Text) : Text := '"' :: (t.flatMap escaped ++ ['"'])

theorem lineFeed_notMem_hexadecimal (n : Nat) : '\n' ∉ hexadecimal n := by
  induction n using Nat.strongRecOn with
  | _ n ih =>
      by_cases hn : n < 16
      · rw [hexadecimal, Nat.toDigits_of_lt_base hn]
        have hdigits : ∀ d < 16, '\n' ∉ [Nat.digitChar d] := by decide
        exact hdigits n hn
      · have hsplit := Nat.toDigits_append_toDigits (b := 16) (n := n / 16) (d := n % 16)
          (by decide) (by omega) (Nat.mod_lt n (by decide))
        rw [Nat.div_add_mod] at hsplit
        rw [hexadecimal, ← hsplit, List.mem_append, not_or]
        exact ⟨ih (n / 16) (by omega), ih (n % 16) (by omega)⟩

theorem lineFeed_notMem_escaped (c : Char) : '\n' ∉ escaped c := by
  unfold escaped
  split
  · decide
  · split
    · decide
    · split
      · decide
      · split
        · decide
        · split
          · decide
          · split
            · decide
            · split
              · simp [codePointEscape, lineFeed_notMem_hexadecimal]
              · rename_i hne _ _ _ _
                simpa using fun h => hne h.symm

theorem lineFeed_notMem_quoted (t : Text) : '\n' ∉ quoted t := by
  simp only [quoted, List.mem_cons, List.mem_append, List.mem_flatMap, not_or]
  refine ⟨by decide, ?_, by decide⟩
  rintro ⟨c, _, hc⟩
  exact lineFeed_notMem_escaped c hc

end ColorCalls.Text
