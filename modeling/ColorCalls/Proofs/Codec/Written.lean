import ColorCalls.Codec
import ColorCalls.Proofs.Text.Numeral

/-! What a codec writes and how it is read back. An argument text that was written for a color is
trimmed, holds no closing parenthesis, and is read as the color it was written for, with what its
notation has no room for left out (`read_formatArguments`). -/

namespace ColorCalls

theorem channelList_cons_cons (b b' : UInt8) (bs : List UInt8) :
    channelList (b :: b' :: bs) =
      Text.decimal b.toNat ++ [',', ' '] ++ channelList (b' :: bs) := by
  simp [channelList]

theorem channelList_eq_intercalate (b : UInt8) (bs : List UInt8) :
    channelList (b :: bs) =
      [','].intercalate (Text.decimal b.toNat :: bs.map fun b => ' ' :: Text.decimal b.toNat) := by
  induction bs generalizing b with
  | nil => simp [channelList]
  | cons b' bs ih =>
      rw [channelList_cons_cons, ih, List.map_cons, List.intercalate_cons_cons,
        List.intercalate_cons_cons_left]
      simp

theorem isDigit_or_of_mem_channelList {bs : List UInt8} {c : Char} (hc : c ∈ channelList bs) :
    c.isDigit = true ∨ c = ',' ∨ c = ' ' := by
  cases bs with
  | nil => simp [channelList] at hc
  | cons b bs =>
      induction bs generalizing b with
      | nil =>
          have hdigit : c ∈ Text.decimal b.toNat := by simpa [channelList] using hc
          exact Or.inl (Text.isDigit_of_mem_decimal hdigit)
      | cons b' bs ih =>
          rw [channelList_cons_cons] at hc
          rcases List.mem_append.mp hc with hc | hc
          · rcases List.mem_append.mp hc with hc | hc
            · exact Or.inl (Text.isDigit_of_mem_decimal hc)
            · exact Or.inr (by simpa using hc)
          · exact ih b' hc

theorem isTrimmed_decimal (n : Nat) : Text.IsTrimmed (Text.decimal n) :=
  .of_forall fun _ hc => Text.isBlank_of_isAlphanum (Text.isAlphanum_of_mem_decimal hc)

theorem channelList_ne_nil (b : UInt8) (bs : List UInt8) : channelList (b :: bs) ≠ [] := by
  cases bs with
  | nil => simpa [channelList] using Text.decimal_ne_nil b.toNat
  | cons b' bs => simp [channelList_cons_cons]

theorem isTrimmed_channelList (b : UInt8) (bs : List UInt8) :
    Text.IsTrimmed (channelList (b :: bs)) := by
  induction bs generalizing b with
  | nil => simpa [channelList] using isTrimmed_decimal b.toNat
  | cons b' bs ih =>
      rw [channelList_cons_cons]
      exact (isTrimmed_decimal b.toNat).between (Text.decimal_ne_nil _) _ (ih b')
        (channelList_ne_nil b' bs)

theorem map_trim_splitOn_channelList (b : UInt8) (bs : List UInt8) :
    ((channelList (b :: bs)).splitOn ',').map Text.trim =
      (b :: bs).map fun b => Text.decimal b.toNat := by
  have hcomma : ∀ n, ',' ∉ Text.decimal n := by
    intro n hmem
    have hdigit := Text.isDigit_of_mem_decimal hmem
    contradiction
  have htokens : ∀ token ∈
      Text.decimal b.toNat :: bs.map fun b => ' ' :: Text.decimal b.toNat, ',' ∉ token := by
    simp [hcomma]
  have hspace : ∀ n, Text.trim (' ' :: Text.decimal n) = Text.decimal n := by
    intro n
    have hblank : Text.AllBlank [' '] := by
      intro c hc
      rw [List.mem_singleton.mp hc]
      decide
    have htrim := Text.trim_append_of_allBlank hblank Text.allBlank_nil (Text.decimal n)
    rw [(isTrimmed_decimal n).trim_eq, List.append_nil] at htrim
    exact htrim
  rw [channelList_eq_intercalate, List.splitOn_intercalate ',' htokens (List.cons_ne_nil _ _),
    List.map_cons, List.map_map, (isTrimmed_decimal b.toNat).trim_eq, List.map_cons]
  simp only [Function.comp_def, hspace]

namespace Arguments

theorem channel_decimal (b : UInt8) : channel (Text.decimal b.toNat) = .ok b := by
  have hb : b.toNat < 256 := b.toNat_lt
  rw [channel, Text.signed_decimal (by omega)]
  simp only
  rw [if_pos ⟨by omega, by omega⟩]
  simp

theorem channels_triple (c : Rgb) :
    channels (channelList [c.red, c.green, c.blue]) = .ok ({ toRgb := c }, .triple) := by
  rw [channels, map_trim_splitOn_channelList]
  simp only [List.map_cons, List.map_nil, channel_decimal]
  rfl

theorem channels_quad (c : Channels) :
    channels (channelList [c.red, c.green, c.blue, c.alpha]) = .ok (c, .quad) := by
  rw [channels, map_trim_splitOn_channelList]
  simp only [List.map_cons, List.map_nil, channel_decimal]
  rfl

theorem paired_div_mod (b : UInt8) : paired (b.toNat / 16) (b.toNat % 16) = b := by
  rw [paired, Nat.div_add_mod, UInt8.ofNat_toNat]

theorem hexChannels_rgb (c : Rgb) :
    hexChannels (Text.hexByte c.red ++ Text.hexByte c.green ++ Text.hexByte c.blue) =
      .ok { toRgb := c } := by
  rw [hexChannels, List.mapM_append, List.mapM_append, Text.mapM_hexDigitValue?_hexByte,
    Text.mapM_hexDigitValue?_hexByte, Text.mapM_hexDigitValue?_hexByte]
  simp only [Option.pure_def, Option.bind_eq_bind, Option.bind_some, List.cons_append,
    List.nil_append, paired_div_mod]

theorem hexChannels_rgba (c : Channels) :
    hexChannels (Text.hexByte c.red ++ Text.hexByte c.green ++ Text.hexByte c.blue ++
      Text.hexByte c.alpha) = .ok c := by
  rw [hexChannels, List.mapM_append, List.mapM_append, List.mapM_append,
    Text.mapM_hexDigitValue?_hexByte, Text.mapM_hexDigitValue?_hexByte,
    Text.mapM_hexDigitValue?_hexByte, Text.mapM_hexDigitValue?_hexByte]
  simp only [Option.pure_def, Option.bind_eq_bind, Option.bind_some, List.cons_append,
    List.nil_append, paired_div_mod]

theorem hexLiteral_ne_nil (digits : Text) : Codec.hexLiteral digits ≠ [] := by
  simp [Codec.hexLiteral]

theorem unquote?_hexLiteral (digits : Text) :
    unquote? (Codec.hexLiteral digits) = some digits := by
  simp [unquote?, Codec.hexLiteral]

theorem decode_channelList (names : ColorNames) (b b' : UInt8) (bs : List UInt8) :
    decode names (channelList (b :: b' :: bs)) = channels (channelList (b :: b' :: bs)) := by
  have hcomma : ',' ∈ channelList (b :: b' :: bs) := by simp [channelList_cons_cons]
  rw [decode, if_neg (channelList_ne_nil b _), if_pos hcomma]

theorem decode_hexLiteral (names : ColorNames) {digits : Text} (hcomma : ',' ∉ digits) :
    decode names (Codec.hexLiteral digits) = literal names digits := by
  have hnotMem : ',' ∉ Codec.hexLiteral digits := by simp [Codec.hexLiteral, hcomma]
  rw [decode, if_neg (hexLiteral_ne_nil digits), if_neg hnotMem, unquote?_hexLiteral]

end Arguments

theorem eq_or_isAlphanum_of_mem_hex {c : Rgb} {d : Char} (hd : d ∈ c.hex) :
    d = '#' ∨ d.isAlphanum = true := by
  simp only [Rgb.hex, List.mem_cons, List.mem_append] at hd
  rcases hd with hd | (hd | hd) | hd
  · exact Or.inl hd
  · exact Or.inr (Text.isAlphanum_of_mem_hexByte hd)
  · exact Or.inr (Text.isAlphanum_of_mem_hexByte hd)
  · exact Or.inr (Text.isAlphanum_of_mem_hexByte hd)

theorem notMem_hex {c : Rgb} {d : Char} (hd : d.isAlphanum = false) (hne : d ≠ '#') :
    d ∉ c.hex := by
  intro hmem
  rcases eq_or_isAlphanum_of_mem_hex hmem with rfl | halphanum
  · contradiction
  · rw [hd] at halphanum
    contradiction

theorem notMem_hexByte {b : UInt8} {d : Char} (hd : d.isAlphanum = false) :
    d ∉ Text.hexByte b := by
  intro hmem
  rw [Text.isAlphanum_of_mem_hexByte hmem] at hd
  contradiction

/-- The notation that a written color is read back in. -/
def Encoding.written : Encoding → Encoding
  | .named => .hex
  | encoding => encoding

def Color.written (c : Color) : Color where
  toRgb := c.toRgb
  alpha := if c.encoding.carriesAlpha then c.alpha else 255
  encoding := c.encoding.written
  source := Codec.formatArguments c

theorem Color.notation_written (c : Color) :
    (c.written.encoding, c.written.alpha) =
      match c.encoding with
      | .triple => (.triple, 255)
      | .quad => (.quad, c.alpha)
      | .hex => (.hex, c.alpha)
      | .named => (.hex, 255) := by
  cases hencoding : c.encoding with
  | triple => simp [written, Encoding.written, Encoding.carriesAlpha, hencoding]
  | quad => simp [written, Encoding.written, Encoding.carriesAlpha, hencoding]
  | hex => simp [written, Encoding.written, Encoding.carriesAlpha, hencoding]
  | named => simp [written, Encoding.written, Encoding.carriesAlpha, hencoding]

namespace Codec

theorem isTrimmed_hexLiteral (digits : Text) : Text.IsTrimmed (hexLiteral digits) :=
  .enclosed (by decide) digits

theorem isTrimmed_formatArguments (color : Color) :
    Text.IsTrimmed (formatArguments color) := by
  unfold formatArguments
  cases color.encoding with
  | triple => exact isTrimmed_channelList _ _
  | quad => exact isTrimmed_channelList _ _
  | hex =>
      simp only
      split
      · exact isTrimmed_hexLiteral _
      · exact isTrimmed_hexLiteral _
  | named => exact isTrimmed_hexLiteral _

theorem formatArguments_ne_nil (color : Color) : formatArguments color ≠ [] := by
  unfold formatArguments
  cases color.encoding with
  | triple => exact channelList_ne_nil _ _
  | quad => exact channelList_ne_nil _ _
  | hex =>
      simp only
      split
      · exact Arguments.hexLiteral_ne_nil _
      · exact Arguments.hexLiteral_ne_nil _
  | named => exact Arguments.hexLiteral_ne_nil _

theorem close_notMem_formatArguments (color : Color) : ')' ∉ formatArguments color := by
  have hlist : ∀ bs, ')' ∉ channelList bs := by
    intro bs hmem
    rcases isDigit_or_of_mem_channelList hmem with hdigit | hcomma | hspace
    · contradiction
    · contradiction
    · contradiction
  have hhex : ')' ∉ color.hex := notMem_hex (by decide) (by decide)
  have hbyte : ')' ∉ Text.hexByte color.alpha := notMem_hexByte (by decide)
  unfold formatArguments
  cases color.encoding with
  | triple => exact hlist _
  | quad => exact hlist _
  | hex =>
      simp only
      split
      · simp [hexLiteral, hhex]
      · simp [hexLiteral, hhex, hbyte]
  | named => simp [hexLiteral, hhex]

theorem decode_formatArguments (names : ColorNames) (color : Color) :
    Arguments.decode names (formatArguments color) =
      .ok (color.written.toChannels, color.written.encoding) := by
  have hcomma : ',' ∉ color.hex := notMem_hex (by decide) (by decide)
  have hopaque : Arguments.literal names color.hex = .ok ({ toRgb := color.toRgb }, .hex) := by
    rw [Rgb.hex, Arguments.literal, Arguments.hexChannels_rgb]
    rfl
  unfold formatArguments
  cases hencoding : color.encoding with
  | triple =>
      simp only [Arguments.decode_channelList]
      rw [Arguments.channels_triple color.toRgb]
      simp [Color.written, hencoding, Encoding.carriesAlpha, Encoding.written]
  | quad =>
      simp only [Arguments.decode_channelList]
      rw [Arguments.channels_quad color.toChannels]
      simp [Color.written, hencoding, Encoding.carriesAlpha, Encoding.written]
  | hex =>
      simp only
      split
      · rename_i halpha
        have halpha : color.alpha = 255 := by simpa [Color.isOpaque] using halpha
        rw [Arguments.decode_hexLiteral names hcomma, hopaque]
        simp [Color.written, hencoding, Encoding.carriesAlpha, Encoding.written, halpha]
      · have hnotMem : ',' ∉ color.hex ++ Text.hexByte color.alpha := by
          simp [hcomma, notMem_hexByte]
        rw [Arguments.decode_hexLiteral names hnotMem, Rgb.hex, List.cons_append,
          Arguments.literal, Arguments.hexChannels_rgba color.toChannels]
        simp [Color.written, hencoding, Encoding.carriesAlpha, Encoding.written]
  | named =>
      simp only
      rw [Arguments.decode_hexLiteral names hcomma, hopaque]
      simp [Color.written, hencoding, Encoding.carriesAlpha, Encoding.written]

theorem read_formatArguments (names : ColorNames) (color : Color) :
    Arguments.read names (formatArguments color) = .ok color.written := by
  rw [Arguments.read, decode_formatArguments]
  rfl

theorem formatArguments_written (color : Color) :
    formatArguments color.written = formatArguments color := by
  cases hencoding : color.encoding with
  | triple => simp [formatArguments, Color.written, hencoding, Encoding.written]
  | quad =>
      simp [formatArguments, Color.written, hencoding, Encoding.written, Encoding.carriesAlpha]
  | hex =>
      simp [formatArguments, Color.written, hencoding, Encoding.written, Encoding.carriesAlpha,
        Color.isOpaque]
  | named =>
      simp [formatArguments, Color.written, hencoding, Encoding.written, Encoding.carriesAlpha,
        Color.isOpaque]

end Codec

end ColorCalls
