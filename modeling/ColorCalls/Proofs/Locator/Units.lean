import ColorCalls.Proofs.Locator.Cursor

/-! A cursor at a byte offset, under every column unit. The unit decides how positions read and
nothing else, so the cursor selects the same call (`callAt?_withUnit`), and an edit there gives the
same text (`cursor_selects_by_offset`). -/

namespace ColorCalls

namespace Locator

def withUnit (locator : Locator) (unit : ColumnUnit) : Locator := { locator with unit := unit }

end Locator

def ColorCall.placed (unit : ColumnUnit) (t : Text) (call : ColorCall) : ColorCall :=
  { call with
    span :=
      { call.span with
        startPosition := .ofOffset unit t call.span.start
        stopPosition := .ofOffset unit t call.span.stop } }

namespace Locator

variable {locator : Locator} {t : Text} {offset : Nat}

theorem found_withUnit (locator : Locator) (unit : ColumnUnit) (t : Text) :
    ((locator.withUnit unit).findAll t).found =
      (locator.findAll t).found.map (ColorCall.placed unit t) := by
  have hcall (call : Call) : (locator.withUnit unit).colorCall? t call =
      (locator.colorCall? t call).map (ColorCall.placed unit t) := by
    rw [colorCall?_eq, colorCall?_eq, Option.map_map]
    rfl
  rw [found_findAll, found_findAll, List.map_filterMap]
  exact congrArg (List.filterMap · _) (funext hcall)

theorem callAt?_withUnit (locator : Locator) (unit : ColumnUnit) (hoffset : t.EndsAt offset) :
    callAt? ((locator.withUnit unit).findAll t).found (.ofOffset unit t offset) =
      ((locator.findAll t).found.find? fun call => call.span.touches offset).map
        (ColorCall.placed unit t) := by
  have h := @callAt?_ofOffset (locator.withUnit unit) t offset hoffset
  rw [found_withUnit, List.find?_map] at h
  rw [found_withUnit]
  exact h

theorem editAt_withUnit (locator : Locator) (unit : ColumnUnit) (hoffset : t.EndsAt offset)
    (picked : PickedColor) (policy : AlphaPolicy) :
    editAt (locator.withUnit unit) t (.ofOffset unit t offset) picked policy =
      match (locator.findAll t).found.find? fun call => call.span.touches offset with
      | none => .error (.noColorAt (.ofOffset unit t offset))
      | some call => (planEdit locator.codec call picked policy).apply t := by
  rw [editAt, callAt?_withUnit locator unit hoffset]
  cases (locator.findAll t).found.find? fun call => call.span.touches offset with
  | none => rfl
  | some call => rfl

theorem cursor_selects_by_offset (locator : Locator) (t : Text) (offset : Nat)
    (hoffset : t.EndsAt offset) (picked : PickedColor) (policy : AlphaPolicy) :
    (∀ unit,
      let found := ((locator.withUnit unit).findAll t).found
      let cursor := Position.ofOffset unit t offset
      callAt? found cursor = found.find? (fun call => call.span.touches offset) ∧
      (∀ call, callAt? found cursor = some call ↔
        call ∈ found ∧ (call.span.stop = offset ∨ call.span.containsOffset offset = true ∧
          ∀ other ∈ found, other.span.stop ≠ offset)) ∧
      ∀ call ∈ found, call.span.containsOffset offset = true →
        ∀ other ∈ found, other.span.stop = offset → [other, call] <:+: found) ∧
    ((∃ edited, ∀ unit,
        editAt (locator.withUnit unit) t (.ofOffset unit t offset) picked policy = .ok edited) ∨
      ∀ unit, editAt (locator.withUnit unit) t (.ofOffset unit t offset) picked policy =
        .error (.noColorAt (.ofOffset unit t offset))) := by
  constructor
  · intro unit found cursor
    exact ⟨callAt?_ofOffset hoffset, fun call => callAt?_ofOffset_eq_some_iff hoffset,
      fun call hcall hcontains other hother => infix_of_stop_eq hcall hcontains hother⟩
  · simp only [fun unit => editAt_withUnit locator unit hoffset picked policy]
    cases hselected : (locator.findAll t).found.find? fun call => call.span.touches offset with
    | none => exact .inr fun unit => rfl
    | some call =>
        obtain ⟨-, before, after, hslice⟩ :=
          standsIn_of_mem_found (List.mem_of_find?_eq_some hselected)
        exact .inl ⟨_, fun unit => Replacement.apply_of_slice? hslice⟩

theorem cursor_between_adjacent_calls :
    let t : Text := "é QColor(1,2,3)QColor(4,5,6)"
    let picked : PickedColor := .ofChannels ⟨⟨9, 8, 7⟩, 255⟩
    t.EndsAt 16 ∧ ∃ edited, ∀ unit,
      editAt (withUnit {} unit) t (.ofOffset unit t 16) picked .preserve = .ok edited := by
  intro t picked
  have hoffset : t.EndsAt 16 := ⟨"é QColor(1,2,3)", "QColor(4,5,6)", rfl, by decide⟩
  refine ⟨hoffset, ?_⟩
  rcases (cursor_selects_by_offset {} t 16 hoffset picked .preserve).2 with hedited | hnone
  · exact hedited
  · exact absurd (hnone .byte) (by decide +kernel)

end Locator
end ColorCalls
