import ColorCalls.Proofs.Call.Opening

/-! The calls of a text, one after the other. The main statement is `listFrom_replace`: another call
in the place of one call of a text leaves the calls before it as they are and those behind it the
calls of what follows. -/

namespace ColorCalls.Call

def Opening.call (o : Opening) (offset : Nat) : Call :=
  ⟨offset, offset + Text.bytes o.text, o.text, o.arguments⟩

def moved (distance : Nat) (call : Call) : Call :=
  { call with start := distance + call.start, stop := distance + call.stop }

theorem listFrom_nil (callee : Text) (offset : Nat) : listFrom callee offset [] = [] := by
  rw [listFrom]

theorem listFrom_of_eq_some {callee t : Text} {o : Opening} (offset : Nat)
    (h : opening? callee t = some o) :
    listFrom callee offset t =
      o.call offset :: listFrom callee (o.call offset).stop o.rest := by
  cases t with
  | nil =>
      rw [opening?_nil] at h
      contradiction
  | cons c r =>
      rw [listFrom]
      split
      · rename_i o' ho'
        rw [h] at ho'
        cases ho'
        rfl
      · rename_i hnone
        rw [h] at hnone
        contradiction

theorem listFrom_of_eq_none {callee r : Text} {c : Char} (offset : Nat)
    (h : opening? callee (c :: r) = none) :
    listFrom callee offset (c :: r) = listFrom callee (offset + c.utf8Size) r := by
  rw [listFrom]
  split
  · rename_i o ho
    rw [h] at ho
    contradiction
  · rfl

theorem listFrom_whole {callee : Text} {o : Opening} (offset : Nat) (h : o.Fits callee) :
    listFrom callee offset o.whole =
      o.call offset :: listFrom callee (o.call offset).stop o.rest :=
  listFrom_of_eq_some offset (opening?_of_fits h)

/-- A text is empty, begins with a call, or begins with a character at which no call begins. -/
@[elab_as_elim]
theorem listFrom_induction (callee : Text) {motive : Nat → Text → Prop}
    (nil : ∀ offset, motive offset [])
    (call : ∀ offset (o : Opening), o.Fits callee →
      motive (o.call offset).stop o.rest → motive offset o.whole)
    (skip : ∀ offset c r, opening? callee (c :: r) = none →
      motive (offset + c.utf8Size) r → motive offset (c :: r))
    (offset : Nat) (t : Text) : motive offset t := by
  induction offset, t using listFrom.induct callee with
  | case1 offset => exact nil offset
  | case2 offset c r o ho _ _ ih =>
      obtain ⟨hfits, hwhole⟩ := opening?_eq_some_iff.mp ho
      rw [← hwhole]
      exact call offset o hfits ih
  | case3 offset c r hnone ih => exact skip offset c r hnone ih

theorem moved_call (o : Opening) (distance offset : Nat) :
    (o.call offset).moved distance = o.call (distance + offset) := by
  simp [Opening.call, moved, Nat.add_assoc]

theorem map_moved_zero (calls : List Call) : calls.map (moved 0) = calls := by
  have hmoved : moved 0 = id := by
    funext call
    simp [moved]
  rw [hmoved, List.map_id]

theorem stop_call (o : Opening) (distance offset : Nat) :
    (o.call (distance + offset)).stop = distance + (o.call offset).stop :=
  Nat.add_assoc ..

theorem map_moved_listFrom (callee : Text) (distance offset : Nat) (t : Text) :
    (listFrom callee offset t).map (moved distance) = listFrom callee (distance + offset) t := by
  induction offset, t using listFrom_induction callee with
  | nil offset => rw [listFrom_nil, listFrom_nil, List.map_nil]
  | call offset o hfits ih =>
      rw [listFrom_whole offset hfits, listFrom_whole (distance + offset) hfits, List.map_cons,
        moved_call, ih, stop_call]
  | skip offset c r hnone ih =>
      rw [listFrom_of_eq_none offset hnone, listFrom_of_eq_none (distance + offset) hnone, ih,
        Nat.add_assoc]

theorem listFrom_eq_map_moved (callee : Text) (offset : Nat) (t : Text) :
    listFrom callee offset t = (list callee t).map (moved offset) :=
  (map_moved_listFrom callee offset 0 t).symm

/-- Before a call nothing changes when another call takes its place. -/
theorem listFrom_replace {callee : Text} {offset : Nat} {t : Text} {pre post : List Call}
    {call : Call} (h : listFrom callee offset t = pre ++ call :: post) :
    ∃ (before : Text) (o : Opening), o.Fits callee ∧ t = before ++ o.whole ∧
      call = o.call (offset + Text.bytes before) ∧ post = listFrom callee call.stop o.rest ∧
      ∀ o' : Opening, o'.Fits callee →
        listFrom callee offset (before ++ o'.whole) =
          pre ++ listFrom callee (offset + Text.bytes before) o'.whole := by
  induction offset, t using listFrom_induction callee generalizing pre with
  | nil offset =>
      rw [listFrom_nil] at h
      simp at h
  | call offset o hfits ih =>
      rw [listFrom_whole offset hfits] at h
      cases pre with
      | nil =>
          obtain ⟨rfl, rfl⟩ := List.cons.inj h
          exact ⟨[], o, hfits, rfl, rfl, rfl, fun o' _ => rfl⟩
      | cons first pre =>
          obtain ⟨rfl, hrest⟩ := List.cons.inj h
          obtain ⟨before, inner, hinner, hsplit, hcall, hpost, hreplace⟩ := ih hrest
          have hoffset : offset + Text.bytes (o.text ++ before) =
              (o.call offset).stop + Text.bytes before := by
            rw [Text.bytes_append, ← Nat.add_assoc]
            rfl
          refine ⟨o.text ++ before, inner, hinner, ?_, ?_, hpost, ?_⟩
          · rw [Opening.whole_eq, hsplit, List.append_assoc]
          · rw [hcall, hoffset]
          · intro o' ho'
            have hbegins := listFrom_whole offset (hfits.withRest (before ++ o'.whole))
            rw [Opening.whole_eq] at hbegins
            rw [hoffset, List.append_assoc]
            exact hbegins.trans (congrArg (List.cons _) (hreplace o' ho'))
  | skip offset c r hnone ih =>
      rw [listFrom_of_eq_none offset hnone] at h
      obtain ⟨before, o, hfits, hsplit, hcall, hpost, hreplace⟩ := ih h
      refine ⟨c :: before, o, hfits, by rw [hsplit, List.cons_append], ?_, hpost, ?_⟩
      · rw [hcall, Text.bytes_cons, Nat.add_assoc]
      · intro o' ho'
        have hnone' : opening? callee (c :: (before ++ o'.whole)) = none := by
          obtain ⟨after, hafter, hopens⟩ := hfits.opens
          obtain ⟨after', hafter', _⟩ := ho'.opens
          rw [← Option.not_isSome_iff_eq_none]
          intro hsome
          rw [hafter', ← List.cons_append, ← List.append_assoc] at hsome
          have hold := isSome_opening?_swap hsome hopens
          rw [List.append_assoc, ← hafter, List.cons_append, ← hsplit, hnone] at hold
          contradiction
        rw [List.cons_append, listFrom_of_eq_none offset hnone', hreplace o' ho',
          Text.bytes_cons, Nat.add_assoc]

end ColorCalls.Call
