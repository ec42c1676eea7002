import ColorCalls.Codec

/-! What a codec notices of a text that it reads: nothing of a color, and of any other text the rule
that rejects it, when there is one and the text is not remembered (`ruleNoticed_parse`). -/

namespace ColorCalls.Codec

inductive RuleNoticed (codec : Codec) (text : Text) (rejection : Rejection) : List Notice → Prop where
  | remembered (h : Text.trim text ∈ codec.recent.keys) : RuleNoticed codec text rejection []
  | noRule (h : Arguments.rule? (Text.trim text) = none) : RuleNoticed codec text rejection []
  | rule {rule : Arguments.Rule} (hnew : Text.trim text ∉ codec.recent.keys)
      (hrule : Arguments.rule? (Text.trim text) = some rule) :
      RuleNoticed codec text rejection [.ruleRejected rule (Text.trim text) rejection]

variable {codec : Codec} {text : Text} {rejection : Rejection}

theorem RuleNoticed.level_eq_trace {notices : List Notice}
    (h : codec.RuleNoticed text rejection notices) : ∀ n ∈ notices, n.level = .trace := by
  cases h with
  | remembered | noRule => exact List.forall_mem_nil _
  | rule => exact List.forall_mem_singleton.mpr rfl

theorem parse_of_trim_eq {text' : Text} (h : Text.trim text' = Text.trim text) :
    codec.parse text' = codec.parse text := by
  simp only [parse, h]

theorem notices_parse_of_result_eq_ok {color : Color}
    (h : (codec.parse text).result = .ok color) : (codec.parse text).notices = [] := by
  rw [result_parse] at h
  cases hget : codec.recent.get? (Text.trim text) with
  | some reading => rw [parse_of_get?_eq_some hget]
  | none =>
      rw [parse_of_get?_eq_none hget]
      dsimp only
      rw [h]
      rfl

theorem ruleNoticed_parse (h : (codec.parse text).result = .error rejection) :
    codec.RuleNoticed text rejection (codec.parse text).notices := by
  rw [result_parse] at h
  have hkeys := Memo.isSome_get?_iff codec.recent (Text.trim text)
  cases hget : codec.recent.get? (Text.trim text) with
  | some reading =>
      rw [parse_of_get?_eq_some hget]
      rw [hget] at hkeys
      exact .remembered (hkeys.mp rfl)
  | none =>
      rw [hget] at hkeys
      have hnew : Text.trim text ∉ codec.recent.keys := fun hmem => nomatch hkeys.mpr hmem
      rw [parse_of_get?_eq_none hget]
      dsimp only
      rw [h]
      cases hrule : Arguments.rule? (Text.trim text) with
      | none =>
          simp only [firstNotices, hrule]
          exact .noRule hrule
      | some rule =>
          simp only [firstNotices, hrule]
          exact .rule hnew hrule

end ColorCalls.Codec
