import ColorCalls.Proofs.Edit.Splice
import ColorCalls.Proofs.Text.Utf8

/-! A planned replacement and a text that is not the one it was planned for. Which outcome it has
says what became of the bytes in its span, unless an end of the span has come to stand inside a
character (`planEdit_diagnoses_iff_ends`). The text that it leaves behind it refuses, for no call is
the beginning of another one (`planEdit_refused_when_repeated`). -/

namespace ColorCalls

/-- Of two calls that one text begins with, neither goes on where the other ends. -/
theorem Call.Opening.Fits.text_eq_of_append_eq {callee rest rest' : Text} {o o' : Call.Opening}
    (ho : o.Fits callee) (ho' : o'.Fits callee) (h : o.text ++ rest = o'.text ++ rest') :
    o.text = o'.text := by
  have hopening := Call.opening?_of_fits (ho.withRest rest)
  have hopening' := Call.opening?_of_fits (ho'.withRest rest')
  rw [Call.Opening.whole_eq] at hopening hopening'
  change Call.opening? callee (o.text ++ rest) = _ at hopening
  change Call.opening? callee (o'.text ++ rest') = _ at hopening'
  rw [h, hopening'] at hopening
  have hsame := congrArg Call.Opening.text (Option.some.inj hopening)
  exact hsame.symm

theorem Locator.exists_opening_of_mem_found {locator : Locator} {t : Text} {call : ColorCall}
    (hcall : call ∈ (locator.findAll t).found) :
    ∃ (before : Text) (o : Call.Opening), o.Fits locator.codec.callee ∧
      t = before ++ o.text ++ o.rest ∧ call.text = o.text ∧
      Text.bytes before = call.span.start ∧
      Text.bytes before + Text.bytes o.text = call.span.stop := by
  obtain ⟨raw, hraw, color, rfl⟩ := exists_call_of_mem_found hcall
  have hstands := (Call.plainScan_list locator.codec.callee t).standsIn raw hraw
  obtain ⟨before, o, hfits, rfl, rfl⟩ := Call.standsIn_iff.mp hstands
  refine ⟨before, o, hfits, ?_, rfl, rfl, rfl⟩
  rw [Call.Opening.whole_eq, List.append_assoc]

theorem Locator.text_ne_nil_of_mem_found {locator : Locator} {t : Text} {call : ColorCall}
    (hcall : call ∈ (locator.findAll t).found) : call.text ≠ [] := by
  obtain ⟨_, o, -, -, htext, -⟩ := exists_opening_of_mem_found hcall
  rw [htext]
  exact o.text_ne_nil

namespace Replacement

variable {r : Replacement} {s : Text}

/-- The outcome says what became of the bytes in the span. -/
structure Diagnoses (r : Replacement) (s : Text) : Prop where
  outOfBounds : r.apply s = .error (.outOfBounds r.span.stop (Text.bytes s)) ↔
    Text.bytes s < r.span.stop
  stale : (∃ found, r.apply s = .error (.stale r.expected found)) ↔
    r.span.stop ≤ Text.bytes s ∧ ¬ s.HasBytes r.span.start r.span.stop r.expected
  applied : (∃ new, r.apply s = .ok new) ↔ s.HasBytes r.span.start r.span.stop r.expected

theorem exists_apply_eq_ok_iff (hexpected : r.expected ≠ []) :
    (∃ new, r.apply s = .ok new) ↔ s.HasBytes r.span.start r.span.stop r.expected := by
  rw [Text.hasBytes_iff hexpected]
  constructor
  · rintro ⟨new, h⟩
    obtain ⟨before, after, hslice, -⟩ := apply_eq_ok_iff.mp h
    exact ⟨before, after, hslice⟩
  · rintro ⟨before, after, hslice⟩
    exact ⟨_, apply_of_slice? hslice⟩

theorem exists_apply_eq_stale_iff (hordered : r.span.start ≤ r.span.stop)
    (hexpected : r.expected ≠ []) :
    (∃ found, r.apply s = .error (.stale r.expected found)) ↔
      (s.EndsAt r.span.start ∧ s.EndsAt r.span.stop) ∧
        ¬ s.HasBytes r.span.start r.span.stop r.expected := by
  simp only [apply_eq_stale_iff, Text.hasBytes_iff hexpected]
  constructor
  · intro h
    obtain ⟨found, hfound, before, after, hslice⟩ := h
    refine ⟨(Text.exists_slice?_iff.mp ⟨before, found, after, hslice⟩).2, ?_⟩
    rintro ⟨_, _, hheld⟩
    rw [hslice] at hheld
    cases hheld
    exact hfound rfl
  · intro h
    obtain ⟨hends, hheld⟩ := h
    obtain ⟨before, found, after, hslice⟩ := Text.exists_slice?_iff.mpr ⟨hordered, hends⟩
    refine ⟨found, ?_, before, after, hslice⟩
    rintro rfl
    exact hheld ⟨before, after, hslice⟩

theorem diagnoses_iff (hordered : r.span.start ≤ r.span.stop) (hexpected : r.expected ≠ []) :
    r.Diagnoses s ↔
      (r.span.stop ≤ Text.bytes s → s.EndsAt r.span.start ∧ s.EndsAt r.span.stop) := by
  constructor
  · intro h hwithin
    by_contra hends
    have hbeyond := h.outOfBounds.mp
      (apply_eq_outOfBounds_iff.mpr ((Text.slice?_eq_none_iff hordered).mpr hends))
    omega
  · intro hwhole
    refine ⟨?_, ?_, exists_apply_eq_ok_iff hexpected⟩
    · rw [apply_eq_outOfBounds_iff, Text.slice?_eq_none_iff hordered]
      constructor
      · intro hends
        exact Nat.lt_of_not_le fun hwithin => hends (hwhole hwithin)
      · rintro hbeyond ⟨-, hstop⟩
        exact Nat.not_le_of_lt hbeyond hstop.le_bytes
    · rw [exists_apply_eq_stale_iff hordered hexpected]
      exact and_congr_left' ⟨fun hends => hends.2.le_bytes, hwhole⟩

end Replacement

namespace Locator

variable {locator : Locator} {t : Text} {call : ColorCall}

/-- A planned replacement is put into exactly those texts whose bytes in its span are those of the
call. In any other text in which the span begins and ends at ends of characters it tells what it
found there; if it does not, the span counts as reaching too far. This is what became of the text
exactly if no end of the span stands inside a character. -/
theorem planEdit_diagnoses_iff_ends (hcall : call ∈ (locator.findAll t).found) (codec : Codec)
    (picked : PickedColor) (policy : AlphaPolicy) (s : Text) :
    let plan := planEdit codec call picked policy
    ((∃ new, plan.apply s = .ok new) ↔
      s.HasBytes plan.span.start plan.span.stop plan.expected) ∧
    (∀ found, plan.apply s = .error (.stale plan.expected found) ↔
      found ≠ plan.expected ∧ ∃ before after,
        Text.slice? plan.span.start plan.span.stop s = some (before, found, after)) ∧
    (plan.apply s = .error (.outOfBounds plan.span.stop (Text.bytes s)) ↔
      ¬ (s.EndsAt plan.span.start ∧ s.EndsAt plan.span.stop)) ∧
    (plan.Diagnoses s ↔
      (plan.span.stop ≤ Text.bytes s →
        s.EndsAt plan.span.start ∧ s.EndsAt plan.span.stop)) := by
  intro plan
  have hordered : plan.span.start ≤ plan.span.stop :=
    Nat.le_of_lt (standsIn_of_mem_found hcall).1
  have hexpected : plan.expected ≠ [] := text_ne_nil_of_mem_found hcall
  refine ⟨Replacement.exists_apply_eq_ok_iff hexpected,
    fun found => Replacement.apply_eq_stale_iff, ?_,
    Replacement.diagnoses_iff hordered hexpected⟩
  rw [Replacement.apply_eq_outOfBounds_iff, Text.slice?_eq_none_iff hordered]

/-- The new end of the text stands inside a character, and the span is said to reach past it. -/
theorem outOfBounds_at_wide_last_character :
    let t : Text := "QColor(1,2,3)"
    let s : Text := "QColor(1,2,3é"
    let picked : PickedColor := .ofChannels ⟨⟨4, 5, 6⟩, 255⟩
    ¬ ∀ call ∈ (findAll {} t).found, (planEdit {} call picked .preserve).Diagnoses s := by
  intro t s picked h
  have hspan : (findAll {} t).found[0]?.map (fun call => (call.span.start, call.span.stop)) =
      some (0, 13) := by decide +kernel
  obtain ⟨call, hcall, hends⟩ := Option.map_eq_some_iff.mp hspan
  obtain ⟨hstart, hstop⟩ := Prod.mk.inj hends
  let plan := planEdit {} call picked .preserve
  have hdiagnosis := h call (List.mem_of_getElem? hcall)
  have hnone : Text.slice? plan.span.start plan.span.stop s = none := by
    change Text.slice? call.span.start call.span.stop s = none
    rw [hstart, hstop]
    decide
  have hbeyond := hdiagnosis.outOfBounds.mp (Replacement.apply_eq_outOfBounds_iff.mpr hnone)
  change Text.bytes s < call.span.stop at hbeyond
  rw [hstop] at hbeyond
  revert hbeyond
  decide

theorem shifted_call_diagnosed :
    let t : Text := "é = QColor(1,2,3)"
    let s : Text := "é == QColor(1,2,3)"
    let picked : PickedColor := .ofChannels ⟨⟨4, 5, 6⟩, 255⟩
    ∃ call ∈ (findAll {} t).found,
      (planEdit {} call picked .preserve).apply s =
        .error (.stale call.text " QColor(1,2,3") ∧
      (planEdit {} call picked .preserve).Diagnoses s := by
  intro t s picked
  have hplace : (findAll {} t).found[0]?.map
      (fun call => (call.span.start, call.span.stop, call.text)) =
        some (5, 18, "QColor(1,2,3)".toList) := by decide +kernel
  obtain ⟨call, hcall, hparts⟩ := Option.map_eq_some_iff.mp hplace
  simp only [Prod.mk.injEq] at hparts
  obtain ⟨hstart, hstop, htext⟩ := hparts
  have hmem := List.mem_of_getElem? hcall
  obtain ⟨-, hstale, -, hdiagnoses⟩ := planEdit_diagnoses_iff_ends hmem {} picked .preserve s
  refine ⟨call, hmem, (hstale _).mpr ⟨?_, "é ==", ")", ?_⟩, hdiagnoses.mpr fun _ => ?_⟩
  · change _ ≠ call.text
    rw [htext]
    decide
  · change Text.slice? call.span.start call.span.stop s = _
    rw [hstart, hstop]
    decide
  · change s.EndsAt call.span.start ∧ s.EndsAt call.span.stop
    rw [hstart, hstop]
    decide

/-- A planned replacement that changes something is refused by the text that it leaves behind,
whatever follows the call there; one that changes nothing leaves the text as it is. -/
theorem planEdit_refused_when_repeated (locator : Locator) (t : Text)
    (k : Fin (locator.findAll t).found.length) (picked : PickedColor) (policy : AlphaPolicy) :
    let scan := locator.findAll t
    let plan := planEdit scan.locator.codec (scan.found.get k) picked policy
    ∃ t', plan.apply t = .ok t' ∧
      (plan.text ≠ plan.expected ↔ ∃ e, plan.apply t' = .error e) ∧
      (plan.text = plan.expected ↔ t' = t) := by
  intro scan plan
  obtain ⟨before, o, hfits, ht, htext, hstart, hstop⟩ :=
    exists_opening_of_mem_found (List.get_mem scan.found k)
  let written := scan.locator.codec.writtenCall plan.color o.rest
  have hwritten : plan.text = written.text := (Codec.text_writtenCall _ _ _).symm
  have hfitsWritten : written.Fits locator.codec.callee := by
    rw [← (codec_findAll locator t).1]
    exact Codec.fits_writtenCall _ _ _
  have hexpected : plan.expected = o.text := htext
  have hcut : t = before ++ plan.expected ++ o.rest := by rw [hexpected, ← ht]
  have hspan : Text.bytes before + Text.bytes plan.expected = plan.span.stop := by
    rw [hexpected]
    exact hstop
  have happly : plan.apply t = .ok (before ++ plan.text ++ o.rest) :=
    Replacement.apply_eq_ok_iff_append.mpr ⟨before, o.rest, hcut, hstart, hspan, rfl⟩
  refine ⟨_, happly, ?_, ?_⟩
  · constructor
    · intro hchanged
      cases hagain : plan.apply (before ++ plan.text ++ o.rest) with
      | error e => exact ⟨e, rfl⟩
      | ok new =>
          obtain ⟨before', after', hsame, hstart', -⟩ :=
            Replacement.apply_eq_ok_iff_append.mp hagain
          rw [List.append_assoc, List.append_assoc] at hsame
          obtain ⟨-, hcalls⟩ :=
            Text.append_inj_of_bytes_eq hsame (hstart.trans hstart'.symm)
          rw [hwritten, hexpected] at hcalls hchanged
          exact absurd (hfitsWritten.text_eq_of_append_eq hfits hcalls) hchanged
    · rintro ⟨e, he⟩ hsame
      rw [hsame, ← hcut] at he
      cases happly.symm.trans he
  · rw [hcut, List.append_assoc, List.append_assoc, List.append_cancel_left_eq,
      List.append_cancel_right_eq]

end Locator

end ColorCalls
