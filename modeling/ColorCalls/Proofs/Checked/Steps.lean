import ColorCalls.Proofs.Checked.Arguments
import ColorCalls.Proofs.Checked.Lines
import ColorCalls.Proofs.Locator.Scan
import ColorCalls.Edit

namespace ColorCalls

theorem Pattern.taken_of_mem_ways {p : Pattern} {t : Text} {w : Way} (h : w ∈ p.ways t) :
    t = w.taken ++ w.rest ∧
      ∀ group ∈ w.captured, ∃ before after, w.taken = before ++ group ++ after := by
  induction p generalizing t w with
  | empty =>
      rw [mem_ways_empty.mp h]
      exact ⟨rfl, nofun⟩
  | one accepts =>
      obtain ⟨c, r, -, rfl, rfl⟩ := mem_ways_one.mp h
      exact ⟨rfl, nofun⟩
  | many accepts =>
      obtain ⟨taken, rest, -, rfl, rfl⟩ := mem_ways_many.mp h
      exact ⟨rfl, nofun⟩
  | seq first second ihfirst ihsecond =>
      obtain ⟨u, hu, v, hv, rfl⟩ := mem_ways_seq.mp h
      obtain ⟨ht, hgroup⟩ := ihfirst hu
      obtain ⟨hrest, hgroup'⟩ := ihsecond hv
      refine ⟨by rw [ht, hrest, List.append_assoc], fun group hmem => ?_⟩
      cases hcaptured : v.captured with
      | none =>
          simp only [hcaptured] at hmem
          obtain ⟨before, after, htaken⟩ := hgroup group hmem
          exact ⟨before, after ++ v.taken, by simp [htaken]⟩
      | some found =>
          simp only [hcaptured] at hmem
          cases hmem
          obtain ⟨before, after, htaken⟩ := hgroup' group hcaptured
          exact ⟨u.taken ++ before, after, by simp [htaken]⟩
  | group inner ih =>
      obtain ⟨u, hu, rfl⟩ := mem_ways_group.mp h
      refine ⟨(ih hu).1, fun group hmem => ?_⟩
      cases hmem
      exact ⟨[], [], by simp⟩

namespace Checked

def splice? (r : Replacement) (t : Text) : Option (Except EditError Text) :=
  match cut? r.span.start r.span.stop t with
  | none => some (.error (.outOfBounds r.span.stop (Text.bytes t)))
  | some found =>
      if found = r.expected then do
        let _ ← minus? (Text.bytes t) (Text.bytes found)
        let front ← cut? 0 r.span.start t
        let back ← cut? r.span.stop (Text.bytes t) t
        return .ok (front ++ r.text ++ back)
      else some (.error (.stale r.expected found))

theorem splice?_eq (r : Replacement) (t : Text) : splice? r t = some (r.apply t) := by
  cases hslice : Text.slice? r.span.start r.span.stop t with
  | none =>
      have hcut : cut? r.span.start r.span.stop t = none := by rw [cut?, hslice, Option.map_none]
      simp only [splice?, hcut, Replacement.apply, hslice]
  | some parts =>
      obtain ⟨before, found, after⟩ := parts
      obtain ⟨rfl, hstart, hstop⟩ := Text.slice?_eq_some_iff.mp hslice
      have hcut : cut? r.span.start r.span.stop (before ++ found ++ after) = some found :=
        cut?_append hstart (hstart ▸ hstop)
      have hsize : minus? (Text.bytes (before ++ found ++ after)) (Text.bytes found) =
          some (Text.bytes before + Text.bytes after) := by
        rw [Text.bytes_append, Text.bytes_append, Nat.add_right_comm]
        exact minus?_add _ _
      have hfront : cut? 0 r.span.start (before ++ found ++ after) = some before := by
        rw [List.append_assoc, ← List.nil_append before]
        exact cut?_append rfl ((Nat.zero_add _).trans hstart)
      have hback : cut? r.span.stop (Text.bytes (before ++ found ++ after))
          (before ++ found ++ after) = some after := by
        rw [← List.append_nil (before ++ found ++ after)]
        refine cut?_append ((Text.bytes_append _ _).trans hstop) ?_
        rw [List.append_nil, Text.bytes_append, Text.bytes_append, hstop]
      simp only [splice?, hcut, hsize, hfront, hback, Replacement.apply, hslice]
      split
      · rfl
      · rfl

theorem exists_of_mem_finds {p : Pattern} {offset : Nat} {t : Text} {hits : List Pattern.Match}
    (h : p.Finds offset t hits) (seen : Text) (hseen : Text.bytes seen = offset) :
    ∀ hit ∈ hits, cut? hit.start hit.stop (seen ++ t) = some hit.text ∧
      ∀ group ∈ hit.captured, ∃ start stop, hit.start ≤ start ∧ stop ≤ hit.stop ∧
        cut? start stop (seen ++ t) = some group := by
  induction h generalizing seen with
  | done => exact nofun
  | @next offset before t way found hbefore hfirst hrest ih =>
      obtain ⟨ht, hgroup⟩ := Pattern.taken_of_mem_ways (List.mem_of_mem_head? hfirst)
      subst hseen ht
      have hwhole : seen ++ (before ++ (way.taken ++ way.rest)) =
          (seen ++ before) ++ way.taken ++ way.rest := by simp
      rw [hwhole]
      refine List.forall_mem_cons.mpr ⟨⟨?_, ?_⟩, ?_⟩
      · exact cut?_append (Text.bytes_append _ _) rfl
      · intro group hmem
        obtain ⟨front, back, htaken⟩ := hgroup group hmem
        have hparts : seen ++ before ++ way.taken ++ way.rest =
            (seen ++ before ++ front) ++ group ++ (back ++ way.rest) := by simp [htaken]
        refine ⟨Text.bytes (seen ++ before ++ front),
          Text.bytes (seen ++ before ++ front) + Text.bytes group, ?_, ?_, ?_⟩
        · simp only [Text.bytes_append]
          omega
        · simp only [htaken, Text.bytes_append]
          omega
        · rw [hparts]
          exact cut?_append rfl rfl
      · exact ih (seen ++ before ++ way.taken) (by simp only [Text.bytes_append])

/-- Whatever codec, argument text, text, unit, offset, position and replacement there are: reading
the arguments, finding the place of an offset and the offset of a place, and replacing a call take
no step that fails, and come to what they come to without offsets. Lines begin at ends of
characters, one behind the other, so that the line of an offset can be searched for by halves. What
a search finds, and what its group took, are cuts of the text. -/
theorem steps_succeed (codec : Codec) (arguments t : Text) (unit : ColumnUnit) (offset : Nat)
    (p : Position) (r : Replacement) :
    parse? codec arguments = some (codec.parse arguments).result ∧
    (LineIndex.ofText unit t).position? offset = some (Position.ofOffset unit t offset) ∧
    (LineIndex.ofText unit t).offset? p = some (Position.offset? unit p t) ∧
    splice? r t = some (r.apply t) ∧
    (LineIndex.ofText unit t).starts.Pairwise (· < ·) ∧
    (∀ start ∈ (LineIndex.ofText unit t).starts, t.EndsAt start) ∧
    ∀ hits, (Call.pattern codec.callee).Finds 0 t hits → ∀ hit ∈ hits,
      cut? hit.start hit.stop t = some hit.text ∧
        ∀ group ∈ hit.captured, ∃ start stop, hit.start ≤ start ∧ stop ≤ hit.stop ∧
          cut? start stop t = some group := by
  refine ⟨parse?_eq codec arguments, position?_ofText unit t offset, offset?_ofText unit t p,
    splice?_eq r t, startsFrom_pairwise 0 t, ?_, fun hits hfinds => ?_⟩
  · refine List.forall_mem_cons.mpr ⟨⟨[], t, rfl, rfl⟩, fun start hstart => ?_⟩
    obtain ⟨-, n, hends, rfl⟩ := exists_of_mem_startsFrom hstart
    rwa [Nat.zero_add]
  · exact exists_of_mem_finds hfinds [] rfl

theorem steps_succeed_between_wide_characters :
    let t : Text := "é\n«QColor( 1,2,3)»"
    ∃ hit, (Call.pattern "QColor").Finds 0 t [hit] ∧ hit.captured ≠ none ∧
      cut? hit.start hit.stop t = some hit.text ∧
      (LineIndex.ofText .utf16 t).position? 1 = some ⟨0, 0⟩ := by
  intro t
  obtain ⟨hits, hfinds⟩ := Call.exists_finds "QColor" 0 t
  have hmatches := Call.forall₂_isMatch_of_finds hfinds
  obtain ⟨hit, rfl⟩ :=
    List.length_eq_one_iff.mp (hmatches.length_eq.symm.trans (by decide +kernel))
  obtain ⟨_, _, hmatch, -, -⟩ := List.forall₂_cons_right_iff.mp hmatches
  obtain ⟨core, hcaptured, -⟩ := hmatch.captured
  obtain ⟨-, hposition, -, -, -, -, hcuts⟩ := steps_succeed {} [] t .utf16 1 ⟨0, 0⟩
    ⟨⟨0, 0, ⟨0, 0⟩, ⟨0, 0⟩⟩, [], [], ⟨⟨⟨0, 0, 0⟩, 255⟩, .triple, []⟩⟩
  refine ⟨hit, hfinds, ?_, (hcuts [hit] hfinds hit List.mem_cons_self).1, ?_⟩
  · rw [hcaptured]
    exact Option.some_ne_none core
  · rw [hposition]
    rfl

end Checked

end ColorCalls
