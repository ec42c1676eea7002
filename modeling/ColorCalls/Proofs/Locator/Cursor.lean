import ColorCalls.Proofs.Edit.OneCall
import ColorCalls.Proofs.Position
import Mathlib.Data.List.Find

/-! The color call that a cursor selects. At the end of a character the cursor touches the calls
around it by their byte offsets (`contains_ofOffset`). Of two calls that meet there it selects the
one that ends (`callAt?_ofOffset_eq_some_iff`), so at the beginning of a call it selects that call,
or the one that ends there (`callAt?_startPosition`). -/

namespace ColorCalls

def Span.touches (s : Span) (offset : Nat) : Bool := s.start ≤ offset && offset ≤ s.stop

namespace Locator

variable {locator : Locator} {t : Text} {call other : ColorCall} {offset : Nat}

theorem endsAt_of_mem_found (hcall : call ∈ (locator.findAll t).found) :
    t.EndsAt call.span.start ∧ t.EndsAt call.span.stop := by
  obtain ⟨raw, hraw, color, rfl⟩ := exists_call_of_mem_found hcall
  obtain ⟨before, _, after, ht, hstart, hstop, _⟩ :=
    (Call.plainScan_list locator.codec.callee t).standsIn raw hraw
  constructor
  · exact ⟨before, raw.text ++ after, by rw [ht, List.append_assoc], hstart.symm⟩
  · exact ⟨before ++ raw.text, after, ht, by rw [Text.bytes_append]; exact hstop.symm⟩

theorem contains_ofOffset (hcall : call ∈ (locator.findAll t).found) (hoffset : t.EndsAt offset) :
    call.span.contains (.ofOffset locator.unit t offset) = call.span.touches offset := by
  obtain ⟨hstart, hstop⟩ := endsAt_of_mem_found hcall
  have hplaced := placedIn_of_mem_found hcall
  rw [Span.contains, Span.touches, hplaced.start, hplaced.stop]
  simp only [Position.ofOffset_le_iff hstart hoffset, Position.ofOffset_le_iff hoffset hstop]

theorem start_lt_stop_of_mem_found (hcall : call ∈ (locator.findAll t).found) :
    call.span.start < call.span.stop :=
  (standsIn_of_mem_found hcall).1

theorem apart_of_found_eq {first last : List ColorCall}
    (h : (locator.findAll t).found = first ++ call :: last) :
    (∀ other ∈ first, other.span.stop ≤ call.span.start) ∧
      ∀ other ∈ last, call.span.stop ≤ other.span.start := by
  have hpairwise := found_pairwise locator t
  rw [h] at hpairwise
  obtain ⟨-, hlast, hacross⟩ := List.pairwise_append.mp hpairwise
  exact ⟨fun other hother => hacross other hother call List.mem_cons_self,
    (List.pairwise_cons.mp hlast).1⟩

theorem callAt?_ofOffset (hoffset : t.EndsAt offset) :
    callAt? (locator.findAll t).found (.ofOffset locator.unit t offset) =
      (locator.findAll t).found.find? fun call => call.span.touches offset := by
  rw [callAt?]
  exact List.find?_congr fun call hcall => contains_ofOffset hcall hoffset

theorem find?_touches_eq_some_iff :
    ((locator.findAll t).found.find? fun call => call.span.touches offset) = some call ↔
      call ∈ (locator.findAll t).found ∧
        (call.span.stop = offset ∨ call.span.containsOffset offset = true ∧
          ∀ other ∈ (locator.findAll t).found, other.span.stop ≠ offset) := by
  simp only [List.find?_eq_some_iff_append, Span.touches, Span.containsOffset, Bool.and_eq_true,
    decide_eq_true_eq, Bool.not_eq_true', Bool.and_eq_false_iff, decide_eq_false_iff_not]
  constructor
  · rintro ⟨⟨hstart, hstop⟩, first, last, hfound, hfirst⟩
    have hmem : call ∈ (locator.findAll t).found := by simp [hfound]
    refine ⟨hmem, ?_⟩
    rcases Nat.eq_or_lt_of_le hstop with heq | hlt
    · exact .inl heq.symm
    · refine .inr ⟨⟨hstart, hlt⟩, fun other hother hends => ?_⟩
      have hsize := start_lt_stop_of_mem_found hother
      rw [hfound] at hother
      rcases List.mem_append.mp hother with hother | hother
      · have hmissed := hfirst other hother
        omega
      · rcases List.mem_cons.mp hother with rfl | hother
        · omega
        · have hbehind := (apart_of_found_eq hfound).2 other hother
          omega
  · rintro ⟨hmem, hwhich⟩
    have hsize := start_lt_stop_of_mem_found hmem
    obtain ⟨first, last, hfound⟩ := List.append_of_mem hmem
    refine ⟨by omega, first, last, hfound, fun other hother => ?_⟩
    have hbefore := (apart_of_found_eq hfound).1 other hother
    rcases hwhich with hstop | ⟨⟨hstart, hstop⟩, hends⟩
    · omega
    · have hne := hends other (hfound ▸ List.mem_append_left _ hother)
      omega

theorem callAt?_ofOffset_eq_some_iff (hoffset : t.EndsAt offset) :
    callAt? (locator.findAll t).found (.ofOffset locator.unit t offset) = some call ↔
      call ∈ (locator.findAll t).found ∧
        (call.span.stop = offset ∨ call.span.containsOffset offset = true ∧
          ∀ other ∈ (locator.findAll t).found, other.span.stop ≠ offset) := by
  rw [callAt?_ofOffset hoffset, find?_touches_eq_some_iff]

theorem infix_of_stop_eq (hcall : call ∈ (locator.findAll t).found)
    (hcontains : call.span.containsOffset offset = true)
    (hother : other ∈ (locator.findAll t).found) (hstop : other.span.stop = offset) :
    [other, call] <:+: (locator.findAll t).found := by
  rw [Span.containsOffset, Bool.and_eq_true, decide_eq_true_eq, decide_eq_true_eq] at hcontains
  have hsize := start_lt_stop_of_mem_found hother
  obtain ⟨first, rest, hfound⟩ := List.append_of_mem hother
  obtain ⟨hbefore, hbehind⟩ := apart_of_found_eq hfound
  rw [hfound] at hcall
  rcases List.mem_append.mp hcall with hmem | hmem
  · have hle := hbefore call hmem
    omega
  · rcases List.mem_cons.mp hmem with rfl | hmem
    · omega
    · obtain ⟨between, last, rfl⟩ := List.append_of_mem hmem
      cases between with
      | nil => exact ⟨first, last, by simp [hfound]⟩
      | cons third between =>
          have hthird : third ∈ (locator.findAll t).found := by simp [hfound]
          have hpos := start_lt_stop_of_mem_found hthird
          have hle := hbehind third List.mem_cons_self
          have hsplit : (locator.findAll t).found =
              (first ++ other :: third :: between) ++ call :: last := by simpa using hfound
          have hnext := (apart_of_found_eq hsplit).1 third (by simp)
          omega

/-- At the beginning of a call a cursor selects this call, unless another one ends there; then it
selects the other one. -/
theorem callAt?_startPosition (hcall : call ∈ (locator.findAll t).found) :
    ∃ selected ∈ (locator.findAll t).found,
      callAt? (locator.findAll t).found call.span.startPosition = some selected ∧
      (selected.span.stop = call.span.start ∨
        selected = call ∧
          ∀ other ∈ (locator.findAll t).found, other.span.stop ≠ call.span.start) := by
  have hselects (selected : ColorCall) :
      callAt? (locator.findAll t).found (.ofOffset locator.unit t call.span.start) = some selected ↔
        _ := callAt?_ofOffset_eq_some_iff (endsAt_of_mem_found hcall).1
  rw [(placedIn_of_mem_found hcall).start]
  by_cases hends : ∃ other ∈ (locator.findAll t).found, other.span.stop = call.span.start
  · obtain ⟨other, hother, hstop⟩ := hends
    exact ⟨other, hother, (hselects other).mpr ⟨hother, .inl hstop⟩, .inl hstop⟩
  · have hclear : ∀ other ∈ (locator.findAll t).found, other.span.stop ≠ call.span.start :=
      fun other hother hstop => hends ⟨other, hother, hstop⟩
    have hcontains : call.span.containsOffset call.span.start = true := by
      simpa [Span.containsOffset] using start_lt_stop_of_mem_found hcall
    exact ⟨call, hcall, (hselects call).mpr ⟨hcall, .inr ⟨hcontains, hclear⟩⟩, .inr ⟨rfl, hclear⟩⟩

theorem editAt_of_callAt?_eq_some {p : Position}
    (hcall : callAt? (locator.findAll t).found p = some call) (picked : PickedColor)
    (policy : AlphaPolicy) :
    ∃ before after,
      Text.slice? call.span.start call.span.stop t = some (before, call.text, after) ∧
      editAt locator t p picked policy =
        .ok (before ++ (planEdit locator.codec call picked policy).text ++ after) := by
  obtain ⟨-, before, after, hslice⟩ := standsIn_of_mem_found (List.mem_of_find?_eq_some hcall)
  refine ⟨before, after, hslice, ?_⟩
  rw [editAt, hcall]
  exact Replacement.apply_of_slice? hslice

end Locator

end ColorCalls
