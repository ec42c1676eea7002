import ColorCalls.Proofs.Codec.Notices
import ColorCalls.Proofs.Locator.Scan

/-! What a scan lists and what it logs. Every match of the search pattern is listed or logged as
passed over, in the order of the text (`accounts_readCalls`). A scan for the first colors reads the
calls up to the last one that it needs, just as a whole scan reads them, and none behind it
(`exists_stops_readCallsUpTo`), so what it lists and logs is the beginning of what the whole scan
does. -/

namespace ColorCalls.Locator

/-- What a scan owes to the matches of the pattern, each of them read by the codec that the ones
before it have left behind: a color is listed with the place and the text of its match, and anything
else is logged as passed over. -/
inductive Accounts (unit : ColumnUnit) (t : Text) :
    Codec → List Pattern.Match → List ColorCall → List Notice → Prop where
  | done (codec : Codec) : Accounts unit t codec [] [] []
  | listed {codec : Codec} {hit : Pattern.Match} {hits : List Pattern.Match} {arguments : Text}
      {color : Color} {found : List ColorCall} {notices : List Notice}
      (captured : hit.captured = some arguments)
      (reads : Arguments.read codec.names (Text.trim arguments) = .ok color)
      (rest : Accounts unit t (codec.parse arguments).codec hits found notices) :
      Accounts unit t codec (hit :: hits)
        ({ span :=
             { start := hit.start
               stop := hit.stop
               startPosition := .ofOffset unit t hit.start
               stopPosition := .ofOffset unit t hit.stop }
           color := color
           text := hit.text } :: found)
        notices
  | passedOver {codec : Codec} {hit : Pattern.Match} {hits : List Pattern.Match}
      {arguments : Text} {rejection : Rejection} {found : List ColorCall}
      {before notices : List Notice} (captured : hit.captured = some arguments)
      (rejects : Arguments.read codec.names (Text.trim arguments) = .error rejection)
      (noticed : codec.RuleNoticed arguments rejection before)
      (rest : Accounts unit t (codec.parse arguments).codec hits found notices) :
      Accounts unit t codec (hit :: hits) found
        (before ++ .callSkipped hit.text hit.start rejection :: notices)

theorem accounts_readCalls {t : Text} {calls : List Call} {hits : List Pattern.Match}
    (h : List.Forall₂ Call.IsMatch calls hits) (locator : Locator) :
    Accounts locator.unit t locator.codec hits (locator.readCalls t calls).found
      (locator.readCalls t calls).notices := by
  induction h generalizing locator with
  | nil => exact .done locator.codec
  | @cons call hit calls hits hmatch _ ih =>
      obtain ⟨core, hcaptured, htrim⟩ := hmatch.captured
      have hrest := ih (locator.remembering (locator.codec.parse call.arguments))
      have hparse : locator.codec.parse core = locator.codec.parse call.arguments :=
        Codec.parse_of_trim_eq htrim
      have hresult := Codec.result_parse locator.codec core
      rw [readCalls, ← hparse]
      rw [← hparse] at hrest
      cases hread : (locator.codec.parse core).result with
      | ok color =>
          rw [hread] at hresult
          simp only [Codec.notices_parse_of_result_eq_ok hread, List.nil_append, colorCall,
            ← hmatch.start, ← hmatch.stop, ← hmatch.text]
          exact .listed hcaptured hresult.symm hrest
      | error rejection =>
          rw [hread] at hresult
          simp only [← hmatch.start, ← hmatch.text]
          exact .passedOver hcaptured hresult.symm (Codec.ruleNoticed_parse hread) hrest

theorem Accounts.level_eq_trace {unit : ColumnUnit} {t : Text} {codec : Codec}
    {hits : List Pattern.Match} {found : List ColorCall} {notices : List Notice}
    (h : Accounts unit t codec hits found notices) : ∀ n ∈ notices, n.level = .trace := by
  induction h with
  | done codec => exact List.forall_mem_nil _
  | listed _ _ _ ih => exact ih
  | passedOver _ _ noticed _ ih =>
      rw [List.forall_mem_append, List.forall_mem_cons]
      exact ⟨noticed.level_eq_trace, rfl, ih⟩

theorem readCalls_append (locator : Locator) (t : Text) (calls calls' : List Call) :
    locator.readCalls t (calls ++ calls') =
      let first := locator.readCalls t calls
      let second := first.locator.readCalls t calls'
      ⟨first.found ++ second.found, second.locator, first.notices ++ second.notices⟩ := by
  induction calls generalizing locator with
  | nil => rfl
  | cons call calls ih =>
      rw [List.cons_append, readCalls, readCalls, ih]
      cases (locator.codec.parse call.arguments).result with
      | ok color => simp
      | error rejection => simp

/-- A scan for `limit` colors is done behind the first calls: it has all the colors, or there are no
more calls, and each of the calls was read because colors were missing yet. -/
structure Stops (locator : Locator) (t : Text) (limit : Nat) (read unread : List Call) : Prop where
  length_le : (locator.readCalls t read).found.length ≤ limit
  done : unread = [] ∨ (locator.readCalls t read).found.length = limit
  needed : ∀ front call back, read = front ++ call :: back →
    (locator.readCalls t front).found.length < limit

theorem Stops.cons {locator next : Locator} {t : Text} {call : Call} {limit limit' more : Nat}
    {read unread : List Call}
    (hlength : ∀ calls, (locator.readCalls t (call :: calls)).found.length =
      (next.readCalls t calls).found.length + more)
    (hlimit : limit' = limit + more) (hpos : 0 < limit') (h : next.Stops t limit read unread) :
    locator.Stops t limit' (call :: read) unread where
  length_le := by
    rw [hlength, hlimit]
    exact Nat.add_le_add_right h.length_le more
  done := h.done.imp_right fun hdone => by rw [hlength, hlimit, hdone]
  needed := by
    intro front other back hread
    cases front with
    | nil => exact hpos
    | cons first front =>
        obtain ⟨rfl, hrest⟩ := List.cons.inj hread
        rw [hlength, hlimit]
        exact Nat.add_lt_add_right (h.needed front other back hrest) more

theorem Stops.found_eq_take {locator : Locator} {t : Text} {limit : Nat} {read unread : List Call}
    (h : locator.Stops t limit read unread) :
    (locator.readCalls t read).found =
      (locator.readCalls t (read ++ unread)).found.take limit := by
  rcases h.done with rfl | hlength
  · rw [List.append_nil, List.take_of_length_le h.length_le]
  · rw [readCalls_append, ← hlength, List.take_left]

theorem exists_stops_readCallsUpTo (locator : Locator) (t : Text) (limit : Nat)
    (calls : List Call) :
    ∃ read unread, calls = read ++ unread ∧ locator.Stops t limit read unread ∧
      locator.readCallsUpTo t limit calls = locator.readCalls t read := by
  induction calls generalizing locator limit with
  | nil =>
      refine ⟨[], [], rfl, ⟨Nat.zero_le limit, .inl rfl, ?_⟩, ?_⟩
      · simp
      · cases limit <;> rfl
  | cons call calls ih =>
      cases limit with
      | zero =>
          refine ⟨[], call :: calls, rfl, ⟨Nat.le_refl 0, .inr rfl, ?_⟩, rfl⟩
          simp
      | succ limit =>
          cases hresult : (locator.codec.parse call.arguments).result with
          | ok color =>
              obtain ⟨read, unread, rfl, hstops, hscan⟩ :=
                ih (locator.remembering (locator.codec.parse call.arguments)) limit
              refine ⟨call :: read, unread, rfl, hstops.cons ?_ rfl (Nat.succ_pos limit), ?_⟩
              · intro calls
                simp only [readCalls, hresult, List.length_cons]
              · simp only [readCalls, readCallsUpTo, hresult, hscan]
          | error rejection =>
              obtain ⟨read, unread, rfl, hstops, hscan⟩ :=
                ih (locator.remembering (locator.codec.parse call.arguments)) (limit + 1)
              refine ⟨call :: read, unread, rfl,
                hstops.cons ?_ (Nat.add_zero _).symm (Nat.succ_pos limit), ?_⟩
              · intro calls
                simp only [readCalls, hresult, Nat.add_zero]
              · simp only [readCalls, readCallsUpTo, hresult, hscan]

/-- Every match of the pattern is listed or logged once as passed over, in the order of the text,
and the last record of a scan is the only one that tells how many are listed. A scan for the first
colors reads the calls up to the last one that it needs, as the whole scan does, so it lists the
first colors and logs the first records of the whole scan. -/
theorem findFirst_begins_findAll (locator : Locator) (t : Text) (limit : Nat) :
    let first := locator.findFirst t limit
    let all := locator.findAll t
    first.found = all.found.take limit ∧ first.notices <+: all.notices ∧
      (∃ read unread, Call.list locator.codec.callee t = read ++ unread ∧
        locator.Stops t limit read unread ∧ first = locator.readCalls t read) ∧
      (∃ hits, (Call.pattern locator.codec.callee).Finds 0 t hits) ∧
      ∃ told,
        all.notices = told ++
          [.scanned all.found.length locator.codec.callee (Text.lineCount t)] ∧
        (∀ n ∈ told, n.level = .trace) ∧
        ∀ hits, (Call.pattern locator.codec.callee).Finds 0 t hits →
          Accounts locator.unit t locator.codec hits all.found told := by
  intro first all
  obtain ⟨read, unread, hcalls, hstops, hfirst⟩ :=
    exists_stops_readCallsUpTo locator t limit (Call.list locator.codec.callee t)
  change first = _ at hfirst
  have haccounts {hits : List Pattern.Match}
      (h : (Call.pattern locator.codec.callee).Finds 0 t hits) :
      Accounts locator.unit t locator.codec hits all.found _ :=
    accounts_readCalls (Call.forall₂_isMatch_of_finds h) locator
  obtain ⟨hits, hhits⟩ := Call.exists_finds locator.codec.callee 0 t
  refine ⟨?_, ?_, ⟨read, unread, hcalls, hstops, hfirst⟩, ⟨hits, hhits⟩, _, rfl,
    (haccounts hhits).level_eq_trace, fun hits => haccounts⟩
  · rw [hfirst, hstops.found_eq_take, ← hcalls]
    rfl
  · have hall : (locator.readCalls t (read ++ unread)).notices <+: all.notices := by
      rw [← hcalls]
      exact List.prefix_append _ _
    rw [hfirst]
    rw [readCalls_append] at hall
    exact (List.prefix_append _ _).trans hall

end ColorCalls.Locator
