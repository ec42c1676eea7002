import ColorCalls.Proofs.Call.List

/-! Calls by a plain reading of the text: from a byte offset on, the call that stands first, and so
on behind its end. The main statement is `plainScan_iff`: this reading gives exactly the calls that
the search lists. -/

namespace ColorCalls.Call

/-- In the text, and at its offsets, the call has its callee, then white space at most, then its
arguments between an opening parenthesis and the first closing one after it. -/
def StandsIn (call : Call) (callee t : Text) : Prop :=
  ∃ before blanks after,
    t = before ++ call.text ++ after ∧
    call.start = Text.bytes before ∧
    call.stop = Text.bytes before + Text.bytes call.text ∧
    call.text = callee ++ blanks ++ '(' :: call.arguments ++ [')'] ∧
    (∀ c ∈ blanks, Text.isBlank c = true) ∧ call.arguments ≠ [] ∧ ')' ∉ call.arguments

inductive PlainScan (callee t : Text) : Nat → List Call → Prop where
  | done {offset : Nat}
      (hnone : ∀ call : Call, call.StandsIn callee t → call.start < offset) :
      PlainScan callee t offset []
  | next {offset : Nat} {call : Call} {calls : List Call}
      (hstands : call.StandsIn callee t) (hreached : offset ≤ call.start)
      (hleast : ∀ other : Call, other.StandsIn callee t → offset ≤ other.start →
        call.start ≤ other.start)
      (hrest : PlainScan callee t call.stop calls) :
      PlainScan callee t offset (call :: calls)

theorem standsIn_iff {call : Call} {callee t : Text} :
    call.StandsIn callee t ↔
      ∃ (before : Text) (o : Opening), o.Fits callee ∧ t = before ++ o.whole ∧
        call = o.call (Text.bytes before) := by
  constructor
  · obtain ⟨start, stop, text, arguments⟩ := call
    intro hparts
    obtain ⟨before, blanks, after, ht, hstart, hstop, htext, hblanks, hnonempty, hclosed⟩ := hparts
    simp only at ht hstart hstop htext hnonempty hclosed
    let o : Opening := ⟨callee ++ blanks ++ ['('], arguments, after⟩
    have hotext : o.text = text := by
      simp [o, Opening.text, htext]
    refine ⟨before, o, ⟨⟨blanks, hblanks, rfl⟩, hnonempty, hclosed⟩, ?_, ?_⟩
    · rw [Opening.whole_eq, hotext, ht, List.append_assoc]
    · rw [Opening.call, hotext, hstart, hstop]
  · intro hparts
    obtain ⟨before, o, hfits, rfl, rfl⟩ := hparts
    obtain ⟨blanks, hblanks, hhead⟩ := hfits.head
    refine ⟨before, blanks, o.rest, ?_, rfl, rfl, ?_, hblanks, hfits.nonempty, hfits.closed⟩
    · rw [Opening.whole_eq, List.append_assoc]
      rfl
    · simp [Opening.call, Opening.text, hhead]

theorem StandsIn.start_lt_stop {call : Call} {callee t : Text} (h : call.StandsIn callee t) :
    call.start < call.stop := by
  obtain ⟨before, o, _, _, rfl⟩ := standsIn_iff.mp h
  exact Nat.lt_add_of_pos_right o.bytes_text_pos

theorem StandsIn.stop_le {call : Call} {callee t : Text} (h : call.StandsIn callee t) :
    call.stop ≤ Text.bytes t := by
  obtain ⟨before, o, _, rfl, rfl⟩ := standsIn_iff.mp h
  rw [Text.bytes_append, Opening.whole_eq, Text.bytes_append, ← Nat.add_assoc]
  exact Nat.le_add_right _ _

theorem StandsIn.slice? {call : Call} {callee t : Text} (h : call.StandsIn callee t) :
    ∃ before after, Text.slice? call.start call.stop t = some (before, call.text, after) := by
  obtain ⟨before, blanks, after, ht, hstart, hstop, _⟩ := h
  refine ⟨before, after, ?_⟩
  rw [ht, hstart, hstop, ← Text.bytes_append]
  exact Text.slice?_append before call.text after

theorem StandsIn.eq_of_start_eq {call other : Call} {callee t : Text}
    (h : call.StandsIn callee t) (hother : other.StandsIn callee t)
    (hstart : call.start = other.start) : call = other := by
  obtain ⟨before, o, hfits, ht, rfl⟩ := standsIn_iff.mp h
  obtain ⟨before', o', hfits', ht', rfl⟩ := standsIn_iff.mp hother
  have hbytes : Text.bytes before = Text.bytes before' := hstart
  obtain ⟨-, hwhole⟩ := Text.append_inj_of_bytes_eq (ht.symm.trans ht') hbytes
  have hopening := opening?_of_fits hfits
  rw [hwhole, opening?_of_fits hfits'] at hopening
  rw [Option.some.inj hopening, hbytes]

theorem PlainScan.unique {callee t : Text} {offset : Nat} {calls others : List Call}
    (h : PlainScan callee t offset calls) (hothers : PlainScan callee t offset others) :
    calls = others := by
  induction h generalizing others with
  | done hnone =>
      cases hothers with
      | done _ => rfl
      | next hstands hreached _ _ =>
          exact absurd hreached (Nat.not_le_of_lt (hnone _ hstands))
  | next hstands hreached hleast _ ih =>
      cases hothers with
      | done hnone => exact absurd hreached (Nat.not_le_of_lt (hnone _ hstands))
      | next hstands' hreached' hleast' hrest' =>
          have hstart := Nat.le_antisymm (hleast _ hstands' hreached')
            (hleast' _ hstands hreached)
          obtain rfl := hstands.eq_of_start_eq hstands' hstart
          rw [ih hrest']

theorem PlainScan.skip {callee t : Text} {offset next : Nat} {calls : List Call}
    (h : PlainScan callee t next calls) (hle : offset ≤ next)
    (hskip : ∀ call : Call, call.StandsIn callee t → offset ≤ call.start → next ≤ call.start) :
    PlainScan callee t offset calls := by
  cases h with
  | done hnone =>
      refine .done fun call hstands => Nat.lt_of_not_le fun hreached => ?_
      exact absurd (hskip call hstands hreached) (Nat.not_le_of_lt (hnone call hstands))
  | next hstands hreached hleast hrest =>
      refine .next hstands (Nat.le_trans hle hreached) ?_ hrest
      exact fun other hother hreached' => hleast other hother (hskip other hother hreached')

theorem next_le_start_of_none {callee seen r : Text} {c : Char} {call : Call}
    (hnone : opening? callee (c :: r) = none) (hstands : call.StandsIn callee (seen ++ c :: r))
    (hreached : Text.bytes seen ≤ call.start) :
    Text.bytes seen + c.utf8Size ≤ call.start := by
  obtain ⟨before, o, hfits, ht, rfl⟩ := standsIn_iff.mp hstands
  have hbytes : Text.bytes seen ≤ Text.bytes before := hreached
  rcases List.append_eq_append_iff.mp ht with ⟨m, rfl, hm⟩ | ⟨m, rfl, hm⟩
  · cases m with
    | nil =>
        rw [List.nil_append] at hm
        rw [hm, opening?_of_fits hfits] at hnone
        contradiction
    | cons d m =>
        obtain ⟨rfl, -⟩ := List.cons.inj hm
        change _ ≤ Text.bytes (seen ++ c :: m)
        rw [Text.bytes_append, Text.bytes_cons]
        omega
  · cases m with
    | nil =>
        rw [List.nil_append] at hm
        rw [← hm, opening?_of_fits hfits] at hnone
        contradiction
    | cons d m =>
        rw [Text.bytes_append, Text.bytes_cons] at hbytes
        have := d.utf8Size_pos
        omega

theorem plainScan_listFrom {callee rest : Text} {offset : Nat} (seen : Text)
    (hoffset : offset = Text.bytes seen) :
    PlainScan callee (seen ++ rest) offset (listFrom callee offset rest) := by
  induction offset, rest using listFrom_induction callee generalizing seen with
  | nil offset =>
      rw [listFrom_nil]
      refine .done fun call hstands => ?_
      have hlt := hstands.start_lt_stop
      have hle := hstands.stop_le
      rw [List.append_nil] at hle
      omega
  | call offset o hfits ih =>
      rw [listFrom_whole offset hfits]
      have hstands : (o.call offset).StandsIn callee (seen ++ o.whole) :=
        standsIn_iff.mpr ⟨seen, o, hfits, rfl, by rw [hoffset]⟩
      refine .next hstands (Nat.le_refl _) (fun other _ hreached => hreached) ?_
      have hstop : (o.call offset).stop = Text.bytes (seen ++ o.text) := by
        rw [Text.bytes_append, ← hoffset]
        rfl
      rw [Opening.whole_eq, ← List.append_assoc]
      exact ih (seen ++ o.text) hstop
  | skip offset c r hnone ih =>
      rw [listFrom_of_eq_none offset hnone]
      subst hoffset
      have hnext : Text.bytes seen + c.utf8Size = Text.bytes (seen ++ [c]) := by simp
      have hscan := ih (seen ++ [c]) hnext
      rw [List.append_assoc] at hscan
      exact hscan.skip (Nat.le_add_right _ _) fun call hstands =>
        next_le_start_of_none hnone hstands

theorem plainScan_iff {callee t : Text} {calls : List Call} :
    PlainScan callee t 0 calls ↔ calls = list callee t := by
  have hlist : PlainScan callee t 0 (list callee t) :=
    plainScan_listFrom [] rfl
  constructor
  · exact fun h => h.unique hlist
  · intro heq
    subst heq
    exact hlist

theorem PlainScan.standsIn {callee t : Text} {offset : Nat} {calls : List Call}
    (h : PlainScan callee t offset calls) : ∀ call ∈ calls, call.StandsIn callee t := by
  induction h with
  | done _ => simp
  | next hstands _ _ _ ih => simpa using ⟨hstands, ih⟩

theorem PlainScan.le_start {callee t : Text} {offset : Nat} {calls : List Call}
    (h : PlainScan callee t offset calls) : ∀ call ∈ calls, offset ≤ call.start := by
  induction h with
  | done _ => simp
  | next hstands hreached _ _ ih =>
      intro call hcall
      rcases List.mem_cons.mp hcall with rfl | hcall
      · exact hreached
      · have hlt := hstands.start_lt_stop
        have hle := ih call hcall
        omega

theorem PlainScan.pairwise {callee t : Text} {offset : Nat} {calls : List Call}
    (h : PlainScan callee t offset calls) :
    calls.Pairwise fun first second => first.stop ≤ second.start := by
  induction h with
  | done _ => exact .nil
  | next _ _ _ hrest ih => exact .cons hrest.le_start ih

theorem plainScan_list (callee t : Text) : PlainScan callee t 0 (list callee t) :=
  plainScan_iff.mpr rfl

end ColorCalls.Call
