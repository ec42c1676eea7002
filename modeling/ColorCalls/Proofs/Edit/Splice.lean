import ColorCalls.Proofs.Checked.Steps
import ColorCalls.Proofs.Edit.OneCall

/-! A replacement in any text. Its span cuts the text or it does not, and the stretch in between is
the expected one or another; there is one outcome for each case (`apply_cases`). A stretch that was
put in can be taken out again (`apply_is_reversible_splice`). -/

namespace ColorCalls

namespace Replacement

variable {r : Replacement} {t new : Text}

theorem apply_cases (r : Replacement) (t : Text) :
    (Text.slice? r.span.start r.span.stop t = none ∧
        r.apply t = .error (.outOfBounds r.span.stop (Text.bytes t))) ∨
      ∃ before found after,
        Text.slice? r.span.start r.span.stop t = some (before, found, after) ∧
          (found = r.expected ∧ r.apply t = .ok (before ++ r.text ++ after) ∨
            found ≠ r.expected ∧ r.apply t = .error (.stale r.expected found)) := by
  rw [apply]
  cases hslice : Text.slice? r.span.start r.span.stop t with
  | none => exact .inl ⟨rfl, rfl⟩
  | some parts =>
      obtain ⟨before, found, after⟩ := parts
      refine .inr ⟨before, found, after, rfl, ?_⟩
      by_cases hfound : found = r.expected
      · exact .inl ⟨hfound, if_pos hfound⟩
      · exact .inr ⟨hfound, if_neg hfound⟩

theorem apply_eq_ok_iff :
    r.apply t = .ok new ↔
      ∃ before after,
        Text.slice? r.span.start r.span.stop t = some (before, r.expected, after) ∧
          new = before ++ r.text ++ after := by
  constructor
  · intro h
    obtain ⟨-, happly⟩ | ⟨before, found, after, hslice, ⟨rfl, happly⟩ | ⟨-, happly⟩⟩ :=
      apply_cases r t
    · cases happly.symm.trans h
    · cases happly.symm.trans h
      exact ⟨before, after, hslice, rfl⟩
    · cases happly.symm.trans h
  · intro h
    obtain ⟨before, after, hslice, rfl⟩ := h
    exact apply_of_slice? hslice

theorem apply_eq_ok_iff_append :
    r.apply t = .ok new ↔
      ∃ before after, t = before ++ r.expected ++ after ∧ Text.bytes before = r.span.start ∧
        Text.bytes before + Text.bytes r.expected = r.span.stop ∧
          new = before ++ r.text ++ after := by
  simp only [apply_eq_ok_iff, Text.slice?_eq_some_iff, and_assoc]

theorem apply_eq_stale_iff {found : Text} :
    r.apply t = .error (.stale r.expected found) ↔
      found ≠ r.expected ∧
        ∃ before after, Text.slice? r.span.start r.span.stop t = some (before, found, after) := by
  obtain ⟨hnone, happly⟩ | ⟨before, other, after, hslice, ⟨rfl, happly⟩ | ⟨hother, happly⟩⟩ :=
    apply_cases r t
  · simp [happly, hnone]
  · simp only [happly, hslice, Option.some.injEq, Prod.mk.injEq, reduceCtorEq, false_iff]
    intro h
    obtain ⟨hfound, _, _, -, hsame, -⟩ := h
    exact hfound hsame.symm
  · simp only [happly, hslice, Except.error.injEq, EditError.stale.injEq, true_and,
      Option.some.injEq, Prod.mk.injEq]
    constructor
    · intro hsame
      exact ⟨hsame ▸ hother, before, after, rfl, hsame, rfl⟩
    · intro h
      obtain ⟨-, _, _, -, hsame, -⟩ := h
      exact hsame

theorem apply_eq_outOfBounds_iff :
    r.apply t = .error (.outOfBounds r.span.stop (Text.bytes t)) ↔
      Text.slice? r.span.start r.span.stop t = none := by
  obtain ⟨hnone, happly⟩ | ⟨before, other, after, hslice, ⟨-, happly⟩ | ⟨-, happly⟩⟩ :=
    apply_cases r t
  · simp [happly, hnone]
  · simp [happly, hslice]
  · simp [happly, hslice]

/-- Over what `r` puts in, `back` puts what `r` takes out. -/
structure Undoes (back r : Replacement) : Prop where
  start : back.span.start = r.span.start
  stop : back.span.stop = r.span.start + Text.bytes r.text
  expected : back.expected = r.text
  text : back.text = r.expected

theorem Undoes.apply {back : Replacement} (hback : back.Undoes r) (h : r.apply t = .ok new) :
    back.apply new = .ok t := by
  obtain ⟨before, after, rfl, hstart, -, rfl⟩ := apply_eq_ok_iff_append.mp h
  apply apply_eq_ok_iff_append.mpr
  refine ⟨before, after, ?_, ?_, ?_, ?_⟩
  · rw [hback.expected]
  · rw [hback.start, hstart]
  · rw [hback.expected, hback.stop, hstart]
  · rw [hback.text]

/-- Whatever span, expected stretch and text a replacement has: it is put into a text exactly if
this one is the expected stretch between a beginning and an end that the span leaves over, which
stay as they are. Nothing is cut where no character ends, the size asked for is that of the result,
and a replacement that undoes it gives the text again. -/
theorem apply_is_reversible_splice (r : Replacement) (t : Text) :
    (∀ new, r.apply t = .ok new ↔
      ∃ before after, t = before ++ r.expected ++ after ∧
        Text.bytes before = r.span.start ∧ r.span.start ≤ r.span.stop ∧
        Text.bytes r.expected = r.span.stop - r.span.start ∧
        new = before ++ r.text ++ after) ∧
    (∀ new, r.apply t = .ok new →
      t.EndsAt r.span.start ∧ t.EndsAt r.span.stop ∧
      Text.bytes new = Text.bytes t - Text.bytes r.expected + Text.bytes r.text ∧
      ∀ back : Replacement, back.Undoes r → back.apply new = .ok t) ∧
    Checked.splice? r t = some (r.apply t) := by
  refine ⟨fun new => ?_, fun new h => ?_, Checked.splice?_eq r t⟩
  · rw [apply_eq_ok_iff_append]
    constructor
    · intro h
      obtain ⟨before, after, ht, hstart, hstop, hnew⟩ := h
      exact ⟨before, after, ht, hstart, by omega, by omega, hnew⟩
    · intro h
      obtain ⟨before, after, ht, hstart, hle, hsize, hnew⟩ := h
      exact ⟨before, after, ht, hstart, by omega, hnew⟩
  · obtain ⟨before, after, hslice, rfl⟩ := apply_eq_ok_iff.mp h
    obtain ⟨-, hstart, hstop⟩ := Text.exists_slice?_iff.mp ⟨before, r.expected, after, hslice⟩
    obtain ⟨rfl, -, -⟩ := Text.slice?_eq_some_iff.mp hslice
    refine ⟨hstart, hstop, ?_, fun back hback => hback.apply h⟩
    simp only [Text.bytes_append]
    omega

theorem apply_undoes_between_wide_characters :
    let color : Color := ⟨⟨⟨0, 0, 0⟩, 255⟩, .triple, []⟩
    let r : Replacement := ⟨⟨1, 3, ⟨0, 1⟩, ⟨0, 2⟩⟩, "é", "ß€", color⟩
    let back : Replacement := ⟨⟨1, 6, ⟨0, 1⟩, ⟨0, 3⟩⟩, "ß€", "é", color⟩
    r.apply "aé😀" = .ok "aß€😀" ∧ back.Undoes r ∧ back.apply "aß€😀" = .ok "aé😀" := by
  intro color r back
  have hundoes : back.Undoes r := ⟨rfl, by decide, rfl, rfl⟩
  obtain ⟨hsplices, hundone, -⟩ := apply_is_reversible_splice r "aé😀"
  have happly : r.apply "aé😀" = .ok "aß€😀" :=
    (hsplices _).mpr ⟨"a", "😀", rfl, rfl, by decide, by decide, rfl⟩
  obtain ⟨-, -, -, hback⟩ := hundone _ happly
  exact ⟨happly, hundoes, hback back hundoes⟩

end Replacement

end ColorCalls
