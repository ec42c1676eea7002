import ColorCalls.Proofs.Codec.Grammar

/-! What the rejection of a channel list tells. The number of tokens is judged first; after that the
leftmost token that is no channel decides. A token that is no integer is told from an integer that
is no byte (`rejection_diagnoses_first_fault_iff`) unless digits that overflow hide what stands
behind them (`overflow_hides_bad_character`). -/

namespace ColorCalls

namespace Arguments

variable {token : Text} {rejection : Rejection}

theorem channel_eq_outOfRange_iff :
    channel token = .error (.outOfRange token) ↔
      (∃ n, Text.IsNumeral token n ∧ (n < 0 ∨ 255 < n)) ∨ Text.Overflows token := by
  constructor
  · intro h
    rw [channel] at h
    split at h
    · rename_i n hn
      split at h
      · contradiction
      · exact .inl ⟨n, (Text.signed_eq_value_iff.mp hn).1, by omega⟩
    · rename_i hoverflow
      exact .inr (Text.signed_eq_overflow_iff.mp hoverflow)
    · cases h
  · rintro (⟨n, hn, hrange⟩ | hoverflow)
    · by_cases hword : -0x8000000000000000 ≤ n ∧ n ≤ 0x7fffffffffffffff
      · rw [channel, Text.signed_eq_value_iff.mpr ⟨hn, hword⟩]
        exact if_neg (by omega)
      · rw [channel, Text.signed_eq_overflow_iff.mpr (hn.overflows (by omega))]
    · rw [channel, Text.signed_eq_overflow_iff.mpr hoverflow]

theorem channel_eq_notAnInteger_iff :
    channel token = .error (.notAnInteger token) ↔
      (∀ n, ¬ Text.IsNumeral token n) ∧ ¬ Text.Overflows token := by
  rw [← Text.signed_eq_malformed_iff, channel]
  cases Text.signed token with
  | value n =>
      simp only
      split <;> simp
  | overflow => simp
  | malformed => simp

theorem eq_of_channel_eq_error (h : channel token = .error rejection) :
    rejection = .notAnInteger token ∨ rejection = .outOfRange token := by
  rw [channel] at h
  split at h
  · split at h
    · contradiction
    · cases h
      exact .inr rfl
  · cases h
    exact .inr rfl
  · cases h
    exact .inl rfl

end Arguments

/-- The rejection tells a token that is no integer from an integer that is no byte. -/
structure Rejection.Diagnoses (rejection : Rejection) (token : Text) : Prop where
  notAnInteger : rejection = .notAnInteger token ↔ ∀ n, ¬ Text.IsNumeral token n
  outOfRange : rejection = .outOfRange token ↔
    ∃ n, Text.IsNumeral token n ∧ (n < 0 ∨ 255 < n)

namespace Arguments

variable {t token : Text} {tokens : List Text} {rejection : Rejection}

theorem diagnoses_iff (h : channel token = .error rejection) :
    rejection.Diagnoses token ↔ (Text.Overflows token → ∃ n, Text.IsNumeral token n) := by
  have heq (other : Rejection) : rejection = other ↔ channel token = .error other := by
    rw [h, Except.error.injEq]
  constructor
  · intro hdiagnoses hoverflows
    by_contra hnumeral
    have hmalformed := hdiagnoses.notAnInteger.mpr (not_exists.mp hnumeral)
    have hrange := (heq _).mpr (channel_eq_outOfRange_iff.mpr (.inr hoverflows))
    rw [hmalformed] at hrange
    contradiction
  · intro hseen
    constructor
    · rw [heq, channel_eq_notAnInteger_iff]
      refine ⟨And.left, fun hnumeral => ⟨hnumeral, fun hoverflows => ?_⟩⟩
      obtain ⟨n, hn⟩ := hseen hoverflows
      exact hnumeral n hn
    · rw [heq, channel_eq_outOfRange_iff]
      refine ⟨fun hrange => ?_, .inl⟩
      obtain ⟨n, hn⟩ : ∃ n, Text.IsNumeral token n :=
        hrange.elim (fun ⟨n, hn, _⟩ => ⟨n, hn⟩) hseen
      refine ⟨n, hn, ?_⟩
      by_contra hbyte
      rw [channel, Text.signed_eq_value_iff.mpr ⟨hn, by omega⟩] at h
      simp only at h
      rw [if_pos (by omega)] at h
      contradiction

/-- The token is the leftmost one that is no channel. -/
def FirstFault (tokens : List Text) (token : Text) : Prop :=
  ∃ before after, tokens = before ++ token :: after ∧
    (∀ other ∈ before, ∃ b, IsChannel other b) ∧ ∀ b, ¬ IsChannel token b

theorem exists_firstFault (h : (tokens.map Text.trim).mapM channel = .error rejection) :
    ∃ token, FirstFault tokens token ∧ channel (Text.trim token) = .error rejection := by
  obtain ⟨front, _, back, htokens, hfront, hfault⟩ := mapM_eq_error_iff.mp h
  obtain ⟨before, rest, rfl, rfl, hrest⟩ := List.map_eq_append_iff.mp htokens
  obtain ⟨token, after, rfl, rfl, -⟩ := List.map_eq_cons_iff.mp hrest
  refine ⟨token, ⟨before, after, rfl, fun other hother => ?_, fun b hb => ?_⟩, hfault⟩
  · obtain ⟨b, hb⟩ := hfront _ (List.mem_map_of_mem hother)
    exact ⟨b, channel_eq_ok_iff.mp hb⟩
  · rw [channel_eq_ok_iff.mpr hb] at hfault
    contradiction

theorem channels_eq_error_iff :
    channels t = .error rejection ↔
      if (t.splitOn ',').length = 3 ∨ (t.splitOn ',').length = 4 then
        ((t.splitOn ',').map Text.trim).mapM channel = .error rejection
      else rejection = .arity (t.splitOn ',').length := by
  rw [← List.length_map Text.trim]
  unfold channels
  split
  · rename_i hsplit
    rw [hsplit, if_pos (.inl rfl)]
    simp [bind_eq_error_iff, pure, Except.pure]
  · rename_i hsplit
    rw [hsplit, if_pos (.inr rfl)]
    simp [bind_eq_error_iff, pure, Except.pure]
  · rename_i tokens hthree hfour
    rw [if_neg, Except.error.injEq, eq_comm]
    rintro (h | h)
    · obtain ⟨r, g, b, heq⟩ := List.length_eq_three.mp h
      exact hthree r g b heq
    · obtain ⟨r, rest, heq, hrest⟩ := List.length_eq_succ_iff.mp h
      obtain ⟨g, b, a, rfl⟩ := List.length_eq_three.mp hrest
      exact hfour r g b a heq.symm

end Arguments

namespace Codec

/-- A channel list is rejected for the number of its tokens, or else for its leftmost token that is
no channel. This one is out of range if it denotes an integer that is no byte or begins with digits
that overflow, and otherwise no integer. So the rejection says what the token is, unless the token
overflows without being an integer. -/
theorem rejection_diagnoses_first_fault_iff (codec : Codec) (text : Text) (rejection : Rejection)
    (hcomma : ',' ∈ Text.trim text) (h : (codec.parse text).result = .error rejection) :
    let tokens := (Text.trim text).splitOn ','
    (∀ n, rejection = .arity n ↔ tokens.length = n ∧ n ≠ 3 ∧ n ≠ 4) ∧
    (tokens.length = 3 ∨ tokens.length = 4 →
      ∃ token, Arguments.FirstFault tokens token ∧
        (rejection = .notAnInteger (Text.trim token) ↔
          (∀ n, ¬ Text.IsNumeral (Text.trim token) n) ∧ ¬ Text.Overflows (Text.trim token)) ∧
        (rejection = .outOfRange (Text.trim token) ↔
          (∃ n, Text.IsNumeral (Text.trim token) n ∧ (n < 0 ∨ 255 < n)) ∨
            Text.Overflows (Text.trim token)) ∧
        (rejection.Diagnoses (Text.trim token) ↔
          (Text.Overflows (Text.trim token) → ∃ n, Text.IsNumeral (Text.trim token) n))) := by
  intro tokens
  have hchannels : Arguments.channels (Text.trim text) = .error rejection := by
    rw [result_parse, Arguments.read, bind_eq_error_iff,
      Arguments.decode_of_comma_mem hcomma] at h
    rcases h with h | ⟨_, -, h⟩
    · exact h
    · contradiction
  rw [Arguments.channels_eq_error_iff] at hchannels
  split at hchannels
  · rename_i hlength
    obtain ⟨token, hfirst, hfault⟩ := Arguments.exists_firstFault hchannels
    have heq (other : Rejection) :
        rejection = other ↔ Arguments.channel (Text.trim token) = .error other := by
      rw [hfault, Except.error.injEq]
    refine ⟨fun n => ?_, fun _ => ⟨token, hfirst, ?_, ?_, Arguments.diagnoses_iff hfault⟩⟩
    · apply iff_of_false
      · rintro rfl
        rcases Arguments.eq_of_channel_eq_error hfault with h | h <;> contradiction
      · rintro ⟨rfl, hthree, hfour⟩
        exact hlength.elim hthree hfour
    · rw [heq, Arguments.channel_eq_notAnInteger_iff]
    · rw [heq, Arguments.channel_eq_outOfRange_iff]
  · rename_i hlength
    refine ⟨fun n => ?_, fun h => absurd h hlength⟩
    rw [hchannels, Rejection.arity.injEq]
    constructor
    · rintro rfl
      exact ⟨rfl, not_or.mp hlength⟩
    · exact And.left

theorem rejection_behind_overflow :
    let text : Text := " 7, 99999999999999999999x ,y"
    let rejection : Rejection := .outOfRange "99999999999999999999x"
    ',' ∈ Text.trim text ∧ (({} : Codec).parse text).result = .error rejection ∧
      ∃ token, Arguments.FirstFault ((Text.trim text).splitOn ',') token ∧
        (rejection.Diagnoses (Text.trim token) ↔
          (Text.Overflows (Text.trim token) → ∃ n, Text.IsNumeral (Text.trim token) n)) := by
  intro text rejection
  have hcomma : ',' ∈ Text.trim text := by decide
  have hresult : (({} : Codec).parse text).result = .error rejection := rfl
  obtain ⟨-, htoken⟩ := rejection_diagnoses_first_fault_iff {} text rejection hcomma hresult
  obtain ⟨token, hfirst, -, -, hdiagnoses⟩ := htoken (.inl rfl)
  exact ⟨hcomma, hresult, token, hfirst, hdiagnoses⟩

theorem overflow_hides_bad_character :
    ¬ ∀ (codec : Codec) (text : Text) (rejection : Rejection), ',' ∈ Text.trim text →
      (codec.parse text).result = .error rejection →
      let tokens := (Text.trim text).splitOn ','
      (∀ n, rejection = .arity n ↔ tokens.length = n ∧ n ≠ 3 ∧ n ≠ 4) ∧
      (tokens.length = 3 ∨ tokens.length = 4 →
        ∃ token, Arguments.FirstFault tokens token ∧ rejection.Diagnoses (Text.trim token)) := by
  intro h
  let bad : Text := "99999999999999999999x"
  have hsplit : List.splitOn ',' (Text.trim "99999999999999999999x,0,0") = [bad, "0", "0"] := by
    decide
  obtain ⟨-, htoken⟩ := h {} "99999999999999999999x,0,0" (.outOfRange bad) (by decide) rfl
  rw [hsplit] at htoken
  obtain ⟨token, ⟨before, after, htokens, hbefore, -⟩, hdiagnoses⟩ := htoken (.inl rfl)
  cases before with
  | nil =>
      obtain ⟨rfl, -⟩ := List.cons.inj htokens
      obtain ⟨n, hn, -⟩ := hdiagnoses.outOfRange.mp (by decide)
      exact absurd (hn.isDigit_of_mem_tail 'x' (by decide)) (by decide)
  | cons first before =>
      obtain ⟨rfl, -⟩ := List.cons.inj htokens
      obtain ⟨b, hb⟩ := hbefore bad List.mem_cons_self
      exact absurd (Arguments.channel_eq_ok_iff.mpr hb) nofun

end Codec

end ColorCalls
