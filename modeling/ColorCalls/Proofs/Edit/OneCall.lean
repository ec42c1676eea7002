import ColorCalls.Edit
import ColorCalls.Proofs.Locator.RoundTrip
import Mathlib.Data.List.Forall2

/-! An edit and the scan after it. Another call in the place of one color call leaves the color
calls before it as they were and moves those behind it (`found_replace`). A planned edit puts a
written call there, which is read back as the picked color. -/

namespace ColorCalls

/-- The same color call, of which one stands behind `distance` bytes and the other behind
`distance'`. -/
structure ColorCall.Shifted (distance distance' : Nat) (old new : ColorCall) : Prop where
  text : new.text = old.text
  color : new.color = old.color
  start : old.span.start + distance' = new.span.start + distance
  stop : old.span.stop + distance' = new.span.stop + distance

theorem Replacement.apply_of_slice? {r : Replacement} {t before after : Text}
    (h : Text.slice? r.span.start r.span.stop t = some (before, r.expected, after)) :
    r.apply t = .ok (before ++ r.text ++ after) := by
  rw [apply, h]
  exact if_pos rfl

namespace Locator

variable {locator locator' : Locator}

theorem forall₂_shifted_filterMap (hnames : locator'.codec.names = locator.codec.names)
    (t t' : Text) (distance distance' : Nat) (calls : List Call) :
    List.Forall₂ (ColorCall.Shifted distance distance')
      ((calls.map (Call.moved distance)).filterMap (locator.colorCall? t))
      ((calls.map (Call.moved distance')).filterMap (locator'.colorCall? t')) := by
  induction calls with
  | nil => exact .nil
  | cons call calls ih =>
      rw [List.map_cons, List.map_cons, List.filterMap_cons, List.filterMap_cons, colorCall?_eq,
        colorCall?_eq, hnames]
      have harguments : ∀ distance, (call.moved distance).arguments = call.arguments :=
        fun _ => rfl
      rw [harguments, harguments]
      cases (Arguments.read locator.codec.names (Text.trim call.arguments)).toOption with
      | none => exact ih
      | some color =>
          refine .cons ⟨rfl, rfl, ?_, ?_⟩ ih
          · simp only [colorCall, Call.moved]
            omega
          · simp only [colorCall, Call.moved]
            omega

theorem found_replace {t : Text} {first last : List ColorCall} {found : ColorCall}
    (hfound : (locator.findAll t).found = first ++ found :: last) :
    ∃ (before : Text) (o : Call.Opening), t = before ++ o.whole ∧
      found.text = o.text ∧ found.span.start = Text.bytes before ∧
      found.span.stop = Text.bytes (before ++ o.text) ∧
      ∀ (locator' : Locator) (o' : Call.Opening) (found' : ColorCall),
        locator'.codec.callee = locator.codec.callee →
        locator'.codec.names = locator.codec.names →
        o'.Fits locator.codec.callee → o'.rest = o.rest →
        locator'.colorCall? (before ++ o'.whole) (o'.call (Text.bytes before)) = some found' →
        ∃ first' last',
          (locator'.findAll (before ++ o'.whole)).found = first' ++ found' :: last' ∧
          List.Forall₂ (ColorCall.Shifted 0 0) first first' ∧
          List.Forall₂ (ColorCall.Shifted (Text.bytes (before ++ o.text))
            (Text.bytes (before ++ o'.text))) last last' := by
  rw [found_findAll] at hfound
  obtain ⟨pre, others, hcalls, hfirst, hothers⟩ := List.filterMap_eq_append_iff.mp hfound
  obtain ⟨skipped, call, post, rfl, hskipped, hcall, hlast⟩ :=
    List.filterMap_eq_cons_iff.mp hothers
  rw [← List.append_assoc] at hcalls
  obtain ⟨before, o, hfits, ht, rfl, hpost, hreplace⟩ := Call.listFrom_replace hcalls
  obtain ⟨color, -, rfl⟩ := Option.map_eq_some_iff.mp hcall
  have hfirst : (pre ++ skipped).filterMap (locator.colorCall? t) = first := by
    rw [List.filterMap_append, hfirst, List.filterMap_eq_nil_iff.mpr hskipped, List.append_nil]
  refine ⟨before, o, ht, rfl, Nat.zero_add _, ?_, ?_⟩
  · change 0 + Text.bytes before + Text.bytes o.text = _
    rw [Text.bytes_append, Nat.zero_add]
  · intro locator' o' found' hcallee hnames hfits' hrest hcall'
    have hcalls' : Call.list locator'.codec.callee (before ++ o'.whole) =
        (pre ++ skipped) ++ o'.call (Text.bytes before) ::
          Call.listFrom locator.codec.callee (Text.bytes (before ++ o'.text)) o.rest := by
      rw [hcallee, Call.list, hreplace o' hfits', Call.listFrom_whole _ hfits', hrest,
        Nat.zero_add, Text.bytes_append]
      rfl
    refine ⟨(pre ++ skipped).filterMap (locator'.colorCall? (before ++ o'.whole)),
      (Call.listFrom locator.codec.callee (Text.bytes (before ++ o'.text)) o.rest).filterMap
        (locator'.colorCall? (before ++ o'.whole)), ?_, ?_, ?_⟩
    · rw [found_findAll, hcalls', List.filterMap_append, List.filterMap_cons, hcall']
    · have hshifted := forall₂_shifted_filterMap hnames t (before ++ o'.whole) 0 0
        (pre ++ skipped)
      rw [Call.map_moved_zero, hfirst] at hshifted
      exact hshifted
    · have hstop : (o.call (0 + Text.bytes before)).stop = Text.bytes (before ++ o.text) := by
        rw [Text.bytes_append, Nat.zero_add]
        rfl
      rw [← hlast, hpost, hstop, Call.listFrom_eq_map_moved,
        Call.listFrom_eq_map_moved locator.codec.callee (Text.bytes (before ++ o'.text))]
      exact forall₂_shifted_filterMap hnames t (before ++ o'.whole) _ _ _

theorem apply_planEdit {t : Text} {first last : List ColorCall} {found : ColorCall}
    (hfound : (locator.findAll t).found = first ++ found :: last)
    (hcallee : locator'.codec.callee = locator.codec.callee)
    (hnames : locator'.codec.names = locator.codec.names)
    (picked : PickedColor) (policy : AlphaPolicy) {plan : Replacement}
    (hplan : plan = planEdit locator'.codec found picked policy) :
    ∃ (t' : Text) (first' last' : List ColorCall) (found' : ColorCall)
      (distance distance' : Nat),
      plan.apply t = .ok t' ∧
      (locator'.findAll t').found = first' ++ found' :: last' ∧
      List.Forall₂ (ColorCall.Shifted 0 0) first first' ∧
      List.Forall₂ (ColorCall.Shifted distance distance') last last' ∧
      distance + Text.bytes plan.text = distance' + Text.bytes plan.expected ∧
      found'.span.start = found.span.start ∧
      found'.span.stop = found.span.start + Text.bytes plan.text ∧
      found'.text = plan.text ∧ found'.color = plan.color.written := by
  subst hplan
  obtain ⟨before, o, rfl, htext, hstart, hstop, hreplace⟩ := found_replace hfound
  let plan := planEdit locator'.codec found picked policy
  let o' := locator'.codec.writtenCall plan.color o.rest
  have htext' : o'.text = plan.text := Codec.text_writtenCall _ _ _
  have hfits' : o'.Fits locator.codec.callee := by
    rw [← hcallee]
    exact Codec.fits_writtenCall _ _ _
  obtain ⟨first', last', hfound', hfirst, hlast⟩ := hreplace locator' o' _ hcallee hnames hfits'
    rfl (colorCall?_writtenCall locator' (before ++ o'.whole) plan.color o.rest _)
  refine ⟨before ++ o'.whole, first', last', _, _, _, ?_, hfound', hfirst, hlast, ?_, ?_, ?_,
    htext', rfl⟩
  · have hslice : Text.slice? plan.span.start plan.span.stop (before ++ o.whole) =
        some (before, plan.expected, o.rest) := by
      change Text.slice? found.span.start found.span.stop (before ++ o.whole) =
        some (before, found.text, o.rest)
      rw [hstart, hstop, htext, Call.Opening.whole_eq, ← List.append_assoc, Text.slice?_append]
    rw [Replacement.apply_of_slice? hslice, Call.Opening.whole_eq, htext', List.append_assoc]
    rfl
  · rw [htext', Text.bytes_append, Text.bytes_append, ← htext]
    change _ + Text.bytes plan.text = _ + Text.bytes found.text
    omega
  · exact hstart.symm
  · change Text.bytes before + Text.bytes o'.text = _
    rw [htext', hstart]

theorem exists_getElem?_of_forall₂ {α β : Type} {R : α → β → Prop} {xs : List α} {ys : List β}
    (h : List.Forall₂ R xs ys) {i : Nat} {x : α} (hx : xs[i]? = some x) :
    ∃ y, ys[i]? = some y ∧ R x y := by
  induction h generalizing i with
  | nil => simp at hx
  | cons hR _ ih =>
      cases i with
      | zero =>
          rw [List.getElem?_cons_zero, Option.some.injEq] at hx
          subst hx
          exact ⟨_, rfl, hR⟩
      | succ i => exact ih hx

theorem getElem?_append_cons_eq_some {α : Type} {first last : List α} {a x : α} {i : Nat}
    (h : (first ++ a :: last)[i]? = some x) :
    (i < first.length ∧ first[i]? = some x) ∨ (i = first.length ∧ x = a) ∨
      ∃ j, i = first.length + (j + 1) ∧ last[j]? = some x := by
  rcases Nat.lt_or_ge i first.length with hlt | hge
  · rw [List.getElem?_append_left hlt] at h
    exact Or.inl ⟨hlt, h⟩
  · obtain ⟨j, rfl⟩ := Nat.exists_eq_add_of_le hge
    rw [List.getElem?_append_right hge, Nat.add_sub_cancel_left] at h
    cases j with
    | zero =>
        rw [List.getElem?_cons_zero, Option.some.injEq] at h
        exact Or.inr (Or.inl ⟨rfl, h.symm⟩)
    | succ j => exact Or.inr (Or.inr ⟨j, rfl, h⟩)

theorem exists_append_get_cons {α : Type} (l : List α) (k : Fin l.length) :
    ∃ first last, l = first ++ l.get k :: last ∧ first.length = k := by
  refine ⟨l.take k, l.drop (k + 1), ?_, ?_⟩
  · exact (List.take_append_drop k l).symm.trans
      (congrArg _ (List.drop_eq_getElem_cons k.isLt))
  · rw [List.length_take, Nat.min_eq_left (Nat.le_of_lt k.isLt)]

/-- A planned edit can be applied. The scan of the edited text finds as many color calls as before:
in the place of the edited call one with the picked color, as far as its notation has room for it,
and otherwise the same ones, of which those behind the edited call stand as much further on as it
got longer. -/
theorem planEdit_changes_one_call (locator : Locator) (t : Text)
    (k : Fin (locator.findAll t).found.length) (picked : PickedColor) (policy : AlphaPolicy) :
    let scan := locator.findAll t
    let call := scan.found.get k
    let plan := planEdit scan.locator.codec call picked policy
    ∃ t', plan.apply t = .ok t' ∧
      (scan.locator.findAll t').found.length = scan.found.length ∧
      ∀ (i : Nat) (old : ColorCall), scan.found[i]? = some old →
        ∃ new, (scan.locator.findAll t').found[i]? = some new ∧
          (i < k → new.text = old.text ∧ new.color = old.color ∧
            new.span.start = old.span.start ∧ new.span.stop = old.span.stop) ∧
          (k < i → new.text = old.text ∧ new.color = old.color ∧
            (new.span.start : Int) =
              old.span.start + (Text.bytes plan.text - Text.bytes plan.expected) ∧
            (new.span.stop : Int) =
              old.span.stop + (Text.bytes plan.text - Text.bytes plan.expected)) ∧
          (i = k → new.span.start = old.span.start ∧
            new.span.stop = old.span.start + Text.bytes plan.text ∧ new.text = plan.text ∧
            (∃ before after,
              Text.slice? new.span.start new.span.stop t' = some (before, plan.text, after)) ∧
            new.color.toRgb = picked.channels.toRgb ∧
            (new.color.encoding, new.color.alpha) =
              (match policy.resolve old.color.encoding picked.channels.alpha with
              | .triple => (.triple, 255)
              | .quad => (.quad, picked.channels.alpha)
              | .hex => (.hex, picked.channels.alpha)
              | .named => (.hex, 255))) := by
  intro scan call plan
  obtain ⟨first, last, hfound, hk⟩ := exists_append_get_cons scan.found k
  change scan.found = first ++ call :: last at hfound
  have hcodec := codec_findAll locator t
  obtain ⟨t', first', last', call', distance, distance', happly, hfound', hfirst, hlast, hsize,
    hstart, hstop, htext, hcolor⟩ :=
    apply_planEdit hfound hcodec.1 hcodec.2.1 picked policy (show plan = _ from rfl)
  have hlength : first'.length = k := by rw [← hfirst.length_eq, hk]
  refine ⟨t', happly, ?_, ?_⟩
  · rw [hfound, hfound', List.length_append, List.length_append, hlength, hk, List.length_cons,
      List.length_cons, hlast.length_eq]
  · intro i old hold
    rw [hfound] at hold
    rw [hfound']
    rcases getElem?_append_cons_eq_some hold with ⟨hlt, hold⟩ | ⟨hi, hold⟩ | ⟨j, hi, hold⟩
    · obtain ⟨new, hnew, hshifted⟩ := exists_getElem?_of_forall₂ hfirst hold
      have hlt' : i < first'.length := by rwa [← hfirst.length_eq]
      refine ⟨new, by rw [List.getElem?_append_left hlt', hnew], ?_, ?_, ?_⟩
      · exact fun _ => ⟨hshifted.text, hshifted.color, hshifted.start.symm, hshifted.stop.symm⟩
      · omega
      · omega
    · rw [hk, ← hlength] at hi
      have hnew : (first' ++ call' :: last')[i]? = some call' := by
        rw [hi, List.getElem?_append_right (Nat.le_refl _), Nat.sub_self]
        rfl
      have hmem : call' ∈ (scan.locator.findAll t').found := by
        rw [hfound']
        exact List.mem_of_getElem? hnew
      have hslice := (standsIn_of_mem_found hmem).2
      rw [htext] at hslice
      subst hold
      refine ⟨call', hnew, ?_, ?_, fun _ => ⟨hstart, hstop, htext, hslice, ?_, ?_⟩⟩
      · omega
      · omega
      · rw [hcolor]
        rfl
      · rw [hcolor]
        exact Color.notation_written plan.color
    · obtain ⟨new, hnew, hshifted⟩ := exists_getElem?_of_forall₂ hlast hold
      have hstart := hshifted.start
      have hstop := hshifted.stop
      refine ⟨new, ?_, ?_, fun _ => ⟨hshifted.text, hshifted.color, ?_, ?_⟩, ?_⟩
      · rw [hi, hk, ← hlength, List.getElem?_append_right (Nat.le_add_right _ _),
          Nat.add_sub_cancel_left]
        exact hnew
      · omega
      · omega
      · omega
      · omega

end Locator

end ColorCalls
