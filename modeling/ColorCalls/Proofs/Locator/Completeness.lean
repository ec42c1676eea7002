import ColorCalls.Proofs.Locator.Scan

/-! Which calls of a text a scan lists. Calls are taken from the left and never overlap, so a call
is passed over when it begins inside one that was taken before, and only then
(`listed_iff_not_covered`). A callee without a closing parenthesis leaves one way for that to
happen: both calls end at the same parenthesis. -/

namespace ColorCalls

namespace Call

def Covers (call : Call) (offset : Nat) : Prop := call.start < offset ∧ offset < call.stop

variable {callee t : Text} {call other : Call}

theorem PlainScan.mem_iff {offset : Nat} {calls : List Call} (h : PlainScan callee t offset calls)
    (hcall : call.StandsIn callee t) (hreached : offset ≤ call.start) :
    call ∈ calls ↔ ∀ other ∈ calls, ¬ other.Covers call.start := by
  induction h with
  | done hnone => exact absurd hreached (Nat.not_le_of_lt (hnone call hcall))
  | @next offset first calls hfirst _ hleast hrest ih =>
      rcases Nat.eq_or_lt_of_le (hleast call hcall hreached) with hstart | hstart
      · obtain rfl := hfirst.eq_of_start_eq hcall hstart
        refine iff_of_true List.mem_cons_self ?_
        rintro other hother ⟨hlt, -⟩
        rcases List.mem_cons.mp hother with rfl | hother
        · exact Nat.lt_irrefl _ hlt
        · have hlater := hrest.le_start other hother
          have hsize := hfirst.start_lt_stop
          omega
      · rcases Nat.lt_or_ge call.start first.stop with hcovered | hbehind
        · refine iff_of_false ?_ fun hclear => hclear first List.mem_cons_self ⟨hstart, hcovered⟩
          intro hmem
          rcases List.mem_cons.mp hmem with rfl | hmem
          · exact Nat.lt_irrefl _ hstart
          · exact absurd (hrest.le_start call hmem) (Nat.not_le_of_lt hcovered)
        · have hne : call ≠ first := by
            rintro rfl
            exact Nat.lt_irrefl _ hstart
          have hclear : ¬ first.Covers call.start := fun hcovers =>
            Nat.not_lt_of_le hbehind hcovers.2
          rw [List.mem_cons, or_iff_right hne, ih hbehind, List.forall_mem_cons,
            and_iff_right hclear]

theorem mem_list_iff (hcall : call.StandsIn callee t) :
    call ∈ list callee t ↔ ∀ other ∈ list callee t, ¬ other.Covers call.start :=
  (plainScan_list callee t).mem_iff hcall (Nat.zero_le _)

theorem StandsIn.exists_body (hcallee : ')' ∉ callee) (hcall : call.StandsIn callee t) :
    ∃ before body after, t = before ++ (body ++ ')' :: after) ∧ ')' ∉ body ∧ body ≠ [] ∧
      call.start = Text.bytes before ∧ call.stop = Text.bytes before + Text.bytes body + 1 := by
  obtain ⟨before, blanks, after, ht, hstart, hstop, htext, hblanks, -, hclosed⟩ := hcall
  have hbody : call.text = (callee ++ blanks ++ '(' :: call.arguments) ++ [')'] := htext
  have hblank : ')' ∉ blanks := Text.AllBlank.notMem hblanks (by decide)
  have hclose : Text.bytes [')'] = 1 := by decide
  refine ⟨before, callee ++ blanks ++ '(' :: call.arguments, after, ?_, ?_, by simp, hstart, ?_⟩
  · rw [ht, hbody]
    simp
  · simp [hcallee, hblank, hclosed]
  · rw [hstop, hbody, Text.bytes_append _ [')'], hclose, Nat.add_assoc]

theorem stop_eq_of_covers (hcallee : ')' ∉ callee) (hcall : call.StandsIn callee t)
    (hother : other.StandsIn callee t) (hcovers : other.Covers call.start) :
    other.stop = call.stop := by
  obtain ⟨before, body, after, ht, hbody, hne, hstart, hstop⟩ := hcall.exists_body hcallee
  obtain ⟨before', body', after', ht', hbody', -, hstart', hstop'⟩ := hother.exists_body hcallee
  obtain ⟨hlt, hgt⟩ := hcovers
  rw [hstart, hstart'] at hlt
  rw [hstart, hstop'] at hgt
  rcases List.append_eq_append_iff.mp (ht.symm.trans ht') with ⟨m, rfl, -⟩ | ⟨m, rfl, hm⟩
  · rw [Text.bytes_append] at hlt
    omega
  · rw [Text.bytes_append] at hgt
    rcases List.append_eq_append_iff.mp hm with ⟨m', rfl, hm'⟩ | ⟨m', rfl, hm'⟩
    · cases m' with
      | nil =>
          cases body with
          | nil => exact absurd rfl hne
          | cons c body =>
              obtain ⟨rfl, -⟩ := List.cons.inj hm'
              exact absurd List.mem_cons_self hbody
      | cons c m' =>
          have hpos := c.utf8Size_pos
          rw [Text.bytes_append, Text.bytes_cons] at hgt
          omega
    · have hm'closed : ')' ∉ m' := fun hmem => hbody' (List.mem_append_right m hmem)
      have hsplit := Text.splitFirst?_append hbody after
      rw [hm', Text.splitFirst?_append hm'closed] at hsplit
      cases hsplit
      rw [hstop, hstop', Text.bytes_append, Text.bytes_append]
      omega

/-- The covering call of a scan may be looked for in the text itself. -/
theorem forall_list_not_covers_iff (hcallee : ')' ∉ callee) (hcall : call.StandsIn callee t) :
    (∀ other ∈ list callee t, ¬ other.Covers call.start) ↔
      ∀ other : Call, other.StandsIn callee t → other.start < call.start →
        other.stop ≠ call.stop := by
  have hsize := hcall.start_lt_stop
  constructor
  · intro hclear other hother hlt hstop
    have hcovers : other.Covers call.start := ⟨hlt, hstop ▸ hsize⟩
    by_cases hmem : other ∈ list callee t
    · exact hclear other hmem hcovers
    · rw [mem_list_iff hother, not_forall] at hmem
      obtain ⟨outer, houter⟩ := hmem
      rw [Classical.not_imp, not_not] at houter
      obtain ⟨houter, houterCovers⟩ := houter
      have houterStands := (plainScan_list callee t).standsIn outer houter
      have houterStop := stop_eq_of_covers hcallee hother houterStands houterCovers
      refine hclear outer houter ⟨Nat.lt_trans houterCovers.1 hlt, ?_⟩
      rw [houterStop, hstop]
      exact hsize
  · intro hclear other hmem hcovers
    have hother := (plainScan_list callee t).standsIn other hmem
    exact hclear other hother hcovers.1 (stop_eq_of_covers hcallee hcall hother hcovers)

end Call

namespace Locator

variable {locator : Locator} {t : Text} {call : Call} {color : Color}

theorem exists_found_at_iff (hcall : call.StandsIn locator.codec.callee t)
    (hread : (locator.codec.parse call.arguments).result = .ok color) :
    (∃ found ∈ (locator.findAll t).found, found.span.start = call.start) ↔
      call ∈ Call.list locator.codec.callee t := by
  constructor
  · rintro ⟨found, hfound, hstart⟩
    obtain ⟨raw, hraw, _, rfl⟩ := exists_call_of_mem_found hfound
    have hstands := (Call.plainScan_list locator.codec.callee t).standsIn raw hraw
    rwa [← hstands.eq_of_start_eq hcall hstart]
  · intro hmem
    refine ⟨colorCall locator.unit t call color, ?_, rfl⟩
    rw [found_findAll, List.mem_filterMap]
    exact ⟨call, hmem, by rw [colorCall?, hread]; rfl⟩

theorem eq_colorCall_of_start_eq (hcall : call.StandsIn locator.codec.callee t)
    (hread : (locator.codec.parse call.arguments).result = .ok color) {found : ColorCall}
    (hfound : found ∈ (locator.findAll t).found) (hstart : found.span.start = call.start) :
    found = colorCall locator.unit t call color := by
  rw [found_findAll] at hfound
  obtain ⟨raw, hraw, hsome⟩ := List.mem_filterMap.mp hfound
  obtain ⟨other, hother, rfl⟩ := Option.map_eq_some_iff.mp hsome
  have hstands := (Call.plainScan_list locator.codec.callee t).standsIn raw hraw
  obtain rfl := hstands.eq_of_start_eq hcall hstart
  rw [hread] at hother
  cases hother
  rfl

/-- A call whose arguments can be read is listed unless it begins inside a call that the scan takes
before it, whatever that one's arguments are. Under a callee without a closing parenthesis this is
when a call that begins earlier ends where it ends. What is listed is the call with its color. -/
theorem listed_iff_not_covered (hcall : call.StandsIn locator.codec.callee t)
    (hread : (locator.codec.parse call.arguments).result = .ok color) :
    ((∃ found ∈ (locator.findAll t).found, found.span.start = call.start) ↔
      ∀ other ∈ Call.list locator.codec.callee t, ¬ other.Covers call.start) ∧
    (')' ∉ locator.codec.callee →
      ((∃ found ∈ (locator.findAll t).found, found.span.start = call.start) ↔
        ∀ other : Call, other.StandsIn locator.codec.callee t → other.start < call.start →
          other.stop ≠ call.stop)) ∧
    ∀ found ∈ (locator.findAll t).found, found.span.start = call.start →
      found = colorCall locator.unit t call color := by
  have hlisted := (exists_found_at_iff hcall hread).trans (Call.mem_list_iff hcall)
  refine ⟨hlisted, ?_, fun found => eq_colorCall_of_start_eq hcall hread⟩
  intro hcallee
  exact hlisted.trans (Call.forall_list_not_covers_iff hcallee hcall)

theorem call_inside_call_not_listed :
    ¬ ∀ (locator : Locator) (t : Text) (call : Call), call.StandsIn locator.codec.callee t →
      '(' ∉ call.arguments →
      (∃ color, (locator.codec.parse call.arguments).result = .ok color) →
      ∃ found ∈ (locator.findAll t).found, found.span.start = call.start := by
  intro h
  let call : Call := ⟨7, 22, "QColor(1, 2, 3)", "1, 2, 3"⟩
  have hcall : call.StandsIn "QColor" "QColor(QColor(1, 2, 3)" :=
    ⟨"QColor(", [], [], by decide, by decide, by decide, by decide,
      List.all_eq_true.mp (by decide), by decide, by decide⟩
  have hread : ∃ color, (({} : Codec).parse call.arguments).result = .ok color := ⟨_, rfl⟩
  have hnone : (({} : Locator).findAll "QColor(QColor(1, 2, 3)").found = [] := by
    decide +kernel
  obtain ⟨found, hfound, -⟩ := h {} _ call hcall (by decide) hread
  rw [hnone] at hfound
  contradiction

theorem call_behind_covered_call_listed :
    let locator : Locator := {}
    let t : Text := "QColor(QColor(1, 2, 3) QColor (4, 5, 6)"
    let call : Call := ⟨23, 39, "QColor (4, 5, 6)", "4, 5, 6"⟩
    let color : Color := ⟨⟨⟨4, 5, 6⟩, 255⟩, .triple, "4, 5, 6"⟩
    call.StandsIn locator.codec.callee t ∧
      (locator.codec.parse call.arguments).result = .ok color ∧
      (∀ other ∈ Call.list locator.codec.callee t, ¬ other.Covers call.start) ∧
      ∃ found ∈ (locator.findAll t).found, found = colorCall locator.unit t call color := by
  intro locator t call color
  have hcall : call.StandsIn locator.codec.callee t :=
    ⟨"QColor(QColor(1, 2, 3) ", " ", [], by decide, by decide, by decide, by decide,
      List.all_eq_true.mp (by decide), by decide, by decide⟩
  have hread : (locator.codec.parse call.arguments).result = .ok color := rfl
  have hclear : ∀ other ∈ Call.list locator.codec.callee t, ¬ other.Covers call.start := by
    unfold Call.Covers
    decide +kernel
  obtain ⟨hlisted, -, hcolor⟩ := listed_iff_not_covered hcall hread
  obtain ⟨found, hfound, hstart⟩ := hlisted.mpr hclear
  exact ⟨hcall, hread, hclear, found, hfound, hcolor found hfound hstart⟩

end Locator

end ColorCalls
