import ColorCalls.Proofs.Codec.Written
import ColorCalls.Proofs.Locator.Scan

namespace ColorCalls

namespace Codec

def writtenCall (codec : Codec) (color : Color) (rest : Text) : Call.Opening :=
  ⟨codec.callee ++ ['('], formatArguments color, rest⟩

theorem fits_writtenCall (codec : Codec) (color : Color) (rest : Text) :
    (codec.writtenCall color rest).Fits codec.callee where
  head := ⟨[], Text.allBlank_nil, by simp [writtenCall]⟩
  nonempty := formatArguments_ne_nil color
  closed := close_notMem_formatArguments color

theorem text_writtenCall (codec : Codec) (color : Color) (rest : Text) :
    (codec.writtenCall color rest).text = codec.format color := by
  simp [writtenCall, Call.Opening.text, format]

theorem whole_writtenCall (codec : Codec) (color : Color) (rest : Text) :
    (codec.writtenCall color rest).whole = codec.format color ++ rest := by
  rw [Call.Opening.whole_eq, text_writtenCall]
  rfl

theorem result_parse_formatArguments (codec : Codec) (color : Color) :
    (codec.parse (formatArguments color)).result = .ok color.written := by
  rw [result_parse, (isTrimmed_formatArguments color).trim_eq, read_formatArguments]

theorem format_written (codec : Codec) (color : Color) :
    codec.format color.written = codec.format color := by
  rw [format, format, formatArguments_written]

end Codec

namespace Locator

theorem colorCall?_writtenCall (locator : Locator) (t : Text) (color : Color) (rest : Text)
    (offset : Nat) :
    locator.colorCall? t ((locator.codec.writtenCall color rest).call offset) =
      some (colorCall locator.unit t ((locator.codec.writtenCall color rest).call offset)
        color.written) := by
  have hread : (locator.codec.parse
      ((locator.codec.writtenCall color rest).call offset).arguments).result =
      .ok color.written :=
    Codec.result_parse_formatArguments locator.codec color
  rw [colorCall?, hread]
  rfl

theorem found_findAll_format (locator : Locator) (color : Color) :
    (locator.findAll (locator.codec.format color)).found =
      [colorCall locator.unit (locator.codec.format color)
        ((locator.codec.writtenCall color []).call 0) color.written] := by
  have hcalls : Call.list locator.codec.callee (locator.codec.format color) =
      [(locator.codec.writtenCall color []).call 0] := by
    have hwhole := Codec.whole_writtenCall locator.codec color []
    rw [List.append_nil] at hwhole
    rw [Call.list, ← hwhole,
      Call.listFrom_whole 0 (Codec.fits_writtenCall locator.codec color [])]
    exact congrArg (List.cons _) (Call.listFrom_nil _ _)
  rw [found_findAll, hcalls, List.filterMap_cons, colorCall?_writtenCall, List.filterMap_nil]

/-- A written color is found as the one call of its text, and read as what its notation has room
for; written again, it is the same text. -/
theorem findAll_format (codec : Codec) (unit : ColumnUnit) (color : Color) :
    ∃ call : ColorCall,
      (({ codec, unit } : Locator).findAll (codec.format color)).found = [call] ∧
      call.span.start = 0 ∧ call.span.stop = Text.bytes (codec.format color) ∧
      call.text = codec.format color ∧
      call.color.toRgb = color.toRgb ∧
      (call.color.encoding, call.color.alpha) =
        (match color.encoding with
        | .triple => (.triple, 255)
        | .quad => (.quad, color.alpha)
        | .hex => (.hex, color.alpha)
        | .named => (.hex, 255)) ∧
      codec.format call.color = codec.format color := by
  refine ⟨_, found_findAll_format { codec, unit } color, rfl, ?_,
    Codec.text_writtenCall codec color [], rfl, Color.notation_written color,
    Codec.format_written codec color⟩
  change 0 + Text.bytes (codec.writtenCall color []).text = _
  rw [Codec.text_writtenCall, Nat.zero_add]

end Locator

end ColorCalls
