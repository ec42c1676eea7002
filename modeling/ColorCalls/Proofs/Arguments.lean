import ColorCalls.Arguments

namespace ColorCalls

theorem eq_ok_of_toOption_eq_some {ε α : Type} {result : Except ε α} {a : α}
    (h : result.toOption = some a) : result = .ok a := by
  cases result with
  | error e => contradiction
  | ok b => exact congrArg _ (Option.some.inj h)

theorem exists_of_bind_eq_ok {ε α β : Type} {x : Except ε α} {f : α → Except ε β} {b : β}
    (h : x >>= f = .ok b) : ∃ a, x = .ok a ∧ f a = .ok b := by
  cases x with
  | error e => cases h
  | ok a => exact ⟨a, rfl, h⟩

theorem bind_eq_error_iff {ε α β : Type} {x : Except ε α} {f : α → Except ε β} {e : ε} :
    x >>= f = .error e ↔ x = .error e ∨ ∃ a, x = .ok a ∧ f a = .error e := by
  cases x with
  | error e' =>
      constructor
      · intro h
        cases h
        exact .inl rfl
      · rintro (h | ⟨a, ha, -⟩)
        · cases h
          rfl
        · contradiction
  | ok a =>
      constructor
      · exact fun h => .inr ⟨a, rfl, h⟩
      · rintro (h | ⟨_, ha, hf⟩)
        · contradiction
        · cases ha
          exact hf

theorem mapM_cons_eq_error_iff {ε α β : Type} {f : α → Except ε β} {x : α} {l : List α} {e : ε} :
    (x :: l).mapM f = .error e ↔
      f x = .error e ∨ (∃ b, f x = .ok b) ∧ l.mapM f = .error e := by
  rw [List.mapM_cons, bind_eq_error_iff]
  simp [bind_eq_error_iff, pure, Except.pure]

theorem mapM_eq_error_iff {ε α β : Type} {f : α → Except ε β} {l : List α} {e : ε} :
    l.mapM f = .error e ↔
      ∃ before a after, l = before ++ a :: after ∧ (∀ x ∈ before, ∃ b, f x = .ok b) ∧
        f a = .error e := by
  induction l with
  | nil =>
      apply iff_of_false nofun
      rintro ⟨before, a, after, hl, -⟩
      exact List.append_ne_nil_of_right_ne_nil before (List.cons_ne_nil a after) hl.symm
  | cons x l ih =>
      rw [mapM_cons_eq_error_iff, ih]
      constructor
      · rintro (hx | ⟨hx, before, a, after, rfl, hbefore, ha⟩)
        · exact ⟨[], x, l, rfl, List.forall_mem_nil _, hx⟩
        · exact ⟨x :: before, a, after, rfl, List.forall_mem_cons.mpr ⟨hx, hbefore⟩, ha⟩
      · rintro ⟨before, a, after, hl, hbefore, ha⟩
        cases before with
        | nil =>
            obtain ⟨rfl, rfl⟩ := List.cons.inj hl
            exact .inl ha
        | cons y before =>
            obtain ⟨rfl, rfl⟩ := List.cons.inj hl
            obtain ⟨hx, hbefore⟩ := List.forall_mem_cons.mp hbefore
            exact .inr ⟨hx, before, a, after, rfl, hbefore, ha⟩

/-- Two steps that agree as far as a view shows lead to results that agree, if what comes after them
sees no more. -/
theorem map_bind_eq_map_bind {ε α β γ δ : Type} {x y : Except ε α} {view : α → γ}
    {f g : α → Except ε β} {view' : β → δ} (h : x.map view = y.map view)
    (hrest : ∀ a b, view a = view b → (f a).map view' = (g b).map view') :
    (x >>= f).map view' = (y >>= g).map view' := by
  cases x with
  | error e =>
      cases y with
      | error e' =>
          cases h
          rfl
      | ok b => contradiction
  | ok a =>
      cases y with
      | error e' => contradiction
      | ok b => exact hrest a b (Except.ok.inj h)

def Color.FitsNotation (c : Color) : Prop := c.encoding.carriesAlpha = false → c.alpha = 255

namespace Arguments

theorem alpha_of_channels {t : Text} {c : Channels} {encoding : Encoding}
    (h : channels t = .ok (c, encoding)) (hcarries : encoding.carriesAlpha = false) :
    c.alpha = 255 := by
  unfold channels at h
  split at h
  · obtain ⟨r, -, h⟩ := exists_of_bind_eq_ok h
    obtain ⟨g, -, h⟩ := exists_of_bind_eq_ok h
    obtain ⟨b, -, h⟩ := exists_of_bind_eq_ok h
    cases h
    rfl
  · obtain ⟨r, -, h⟩ := exists_of_bind_eq_ok h
    obtain ⟨g, -, h⟩ := exists_of_bind_eq_ok h
    obtain ⟨b, -, h⟩ := exists_of_bind_eq_ok h
    obtain ⟨a, -, h⟩ := exists_of_bind_eq_ok h
    cases h
    contradiction
  · contradiction

theorem alpha_of_literal {names : ColorNames} {t : Text} {c : Channels} {encoding : Encoding}
    (h : literal names t = .ok (c, encoding)) (hcarries : encoding.carriesAlpha = false) :
    c.alpha = 255 := by
  unfold literal at h
  split at h
  · obtain ⟨digits, -, h⟩ := exists_of_bind_eq_ok h
    cases h
    contradiction
  · split at h
    · cases h
      rfl
    · contradiction

theorem alpha_of_decode {names : ColorNames} {t : Text} {c : Channels} {encoding : Encoding}
    (h : decode names t = .ok (c, encoding)) (hcarries : encoding.carriesAlpha = false) :
    c.alpha = 255 := by
  unfold decode at h
  split at h
  · contradiction
  · split at h
    · exact alpha_of_channels h hcarries
    · split at h
      · exact alpha_of_literal h hcarries
      · contradiction

theorem fitsNotation_of_read {names : ColorNames} {t : Text} {color : Color}
    (h : read names t = .ok color) : color.FitsNotation := by
  obtain ⟨⟨c, encoding⟩, hdecode, h⟩ := exists_of_bind_eq_ok h
  cases h
  exact alpha_of_decode hdecode

end Arguments

end ColorCalls
