import ColorCalls.Codec
import ColorCalls.Proofs.Arguments
import ColorCalls.Proofs.Text.Numeral

/-! The grammar of argument texts. A codec reads a text exactly if its trimmed form denotes a color,
and then it reads that color (`parse_eq_ok_iff`). -/

namespace ColorCalls

structure Text.IsHexDigit (c : Char) (n : Nat) : Prop where
  lt : n < 16
  eq : c = Nat.digitChar n ∨ c = (Nat.digitChar n).toUpper

namespace Arguments

/-- The token is a numeral for the byte, with white space around it. -/
def IsChannel (token : Text) (b : UInt8) : Prop := Text.IsNumeral (Text.trim token) b.toNat

structure IsHexByte (high low : Char) (b : UInt8) : Prop where
  high : Text.IsHexDigit high (b.toNat / 16)
  low : Text.IsHexDigit low (b.toNat % 16)

/-- The text is the digits of the channels: each digit counts twice, or two make one channel. -/
inductive IsHexColor : Text → Channels → Prop where
  | three {r g b : Char} {c : Channels} (red : IsHexByte r r c.red) (green : IsHexByte g g c.green)
      (blue : IsHexByte b b c.blue) (alpha : c.alpha = 255) : IsHexColor [r, g, b] c
  | four {r g b a : Char} {c : Channels} (red : IsHexByte r r c.red)
      (green : IsHexByte g g c.green) (blue : IsHexByte b b c.blue)
      (alpha : IsHexByte a a c.alpha) : IsHexColor [r, g, b, a] c
  | six {r r' g g' b b' : Char} {c : Channels} (red : IsHexByte r r' c.red)
      (green : IsHexByte g g' c.green) (blue : IsHexByte b b' c.blue) (alpha : c.alpha = 255) :
      IsHexColor [r, r', g, g', b, b'] c
  | eight {r r' g g' b b' a a' : Char} {c : Channels} (red : IsHexByte r r' c.red)
      (green : IsHexByte g g' c.green) (blue : IsHexByte b b' c.blue)
      (alpha : IsHexByte a a' c.alpha) : IsHexColor [r, r', g, g', b, b', a, a'] c

def IsQuote (c : Char) : Prop := c = '"' ∨ c = '\''

inductive Denotes (names : ColorNames) : Text → Channels → Encoding → Prop where
  | triple {t r g b : Text} {c : Channels} (tokens : t.splitOn ',' = [r, g, b])
      (red : IsChannel r c.red) (green : IsChannel g c.green) (blue : IsChannel b c.blue)
      (alpha : c.alpha = 255) : Denotes names t c .triple
  | quad {t r g b a : Text} {c : Channels} (tokens : t.splitOn ',' = [r, g, b, a])
      (red : IsChannel r c.red) (green : IsChannel g c.green) (blue : IsChannel b c.blue)
      (alpha : IsChannel a c.alpha) : Denotes names t c .quad
  | hex {quote : Char} {digits : Text} {c : Channels} (hquote : IsQuote quote)
      (hdigits : IsHexColor digits c) : Denotes names (quote :: '#' :: digits ++ [quote]) c .hex
  | named {quote : Char} {name : Text} {c : Channels} (hquote : IsQuote quote)
      (hcomma : ',' ∉ name) (hhash : name.head? ≠ some '#')
      (hname : names.get? name = some c.toRgb) (alpha : c.alpha = 255) :
      Denotes names (quote :: name ++ [quote]) c .named

end Arguments

namespace Text

theorem hexDigitValue?_of_isHexDigit {c : Char} {n : Nat} (h : IsHexDigit c n) :
    hexDigitValue? c = some n := by
  have hall : ∀ m < 16, hexDigitValue? (Nat.digitChar m).toUpper = some m := by decide
  rcases h.eq with rfl | rfl
  · exact hexDigitValue?_digitChar h.lt
  · exact hall n h.lt

theorem toNat_of_hexDigitValue?_eq_some {c : Char} {n : Nat} (h : hexDigitValue? c = some n) :
    c.toNat ≤ 'f'.toNat := by
  unfold hexDigitValue? at h
  split at h
  · rename_i hdigit
    exact Nat.le_trans (Char.isDigit_iff_toNat.mp hdigit).2 (by decide)
  · split at h
    · rename_i hlower
      exact hlower.2
    · split at h
      · rename_i hupper
        exact Nat.le_trans hupper.2 (by decide)
      · contradiction

theorem hexDigitValue?_eq_some_iff {c : Char} {n : Nat} :
    hexDigitValue? c = some n ↔ IsHexDigit c n := by
  constructor
  · intro h
    have hall : ∀ k ≤ 'f'.toNat, ∀ m ∈ hexDigitValue? (Char.ofNat k), m < 16 ∧
        (Char.ofNat k = Nat.digitChar m ∨ Char.ofNat k = (Nat.digitChar m).toUpper) := by
      decide +kernel
    have hc := hall c.toNat (toNat_of_hexDigitValue?_eq_some h)
    rw [Char.ofNat_toNat] at hc
    obtain ⟨hlt, heq⟩ := hc n h
    exact ⟨hlt, heq⟩
  · exact hexDigitValue?_of_isHexDigit

end Text

namespace Arguments

variable {names : ColorNames} {t digits : Text} {c : Channels} {encoding : Encoding}

theorem toNat_paired {high low : Nat} (hhigh : high < 16) (hlow : low < 16) :
    (paired high low).toNat = 16 * high + low := by
  rw [paired, UInt8.toNat_ofNat_of_lt' (by rw [UInt8.size]; omega)]

theorem isHexByte_iff {high low : Char} {b : UInt8} :
    IsHexByte high low b ↔ ∃ m n, Text.hexDigitValue? high = some m ∧
      Text.hexDigitValue? low = some n ∧ paired m n = b := by
  constructor
  · intro h
    refine ⟨_, _, Text.hexDigitValue?_of_isHexDigit h.high,
      Text.hexDigitValue?_of_isHexDigit h.low, ?_⟩
    rw [← UInt8.toNat_inj, toNat_paired h.high.lt h.low.lt]
    exact Nat.div_add_mod b.toNat 16
  · rintro ⟨m, n, hm, hn, rfl⟩
    rw [Text.hexDigitValue?_eq_some_iff] at hm hn
    have hvalue := toNat_paired hm.lt hn.lt
    have hlow := hn.lt
    constructor
    · rwa [hvalue, show (16 * m + n) / 16 = m by omega]
    · rwa [hvalue, show (16 * m + n) % 16 = n by omega]

theorem isHexByte_self_iff {digit : Char} {b : UInt8} :
    IsHexByte digit digit b ↔ ∃ n, Text.hexDigitValue? digit = some n ∧ doubled n = b := by
  have hdoubled (n : Nat) : doubled n = paired n n := by
    rw [doubled, paired, Nat.succ_mul]
  constructor
  · intro h
    obtain ⟨m, n, hm, hn, hb⟩ := isHexByte_iff.mp h
    cases hm.symm.trans hn
    exact ⟨m, hm, (hdoubled m).trans hb⟩
  · rintro ⟨n, hn, rfl⟩
    exact isHexByte_iff.mpr ⟨n, n, hn, hn, (hdoubled n).symm⟩

theorem mapM_eq_some_iff {α β : Type} {f : α → Option β} {l : List α} {r : List β} :
    l.mapM f = some r ↔ l.map f = r.map some := by
  induction l generalizing r with
  | nil => cases r <;> simp
  | cons a l ih =>
      rw [List.mapM_cons, List.map_cons]
      cases r with
      | nil => simp [Option.bind_eq_some_iff]
      | cons b r =>
          rw [List.map_cons, List.cons.injEq, ← ih]
          simp [Option.bind_eq_some_iff]

theorem isHexColor_of_hexChannels_eq_ok (h : hexChannels digits = .ok c) : IsHexColor digits c := by
  unfold hexChannels at h
  split at h <;> rename_i hdigits
  case h_5 => split at h <;> contradiction
  all_goals
    simp only [mapM_eq_some_iff, List.map_cons, List.map_nil, List.map_eq_cons_iff,
      List.map_eq_nil_iff] at hdigits
    cases h
  case h_1 =>
    obtain ⟨r, _, rfl, hr, g, _, rfl, hg, b, _, rfl, hb, rfl⟩ := hdigits
    exact .three (isHexByte_self_iff.mpr ⟨_, hr, rfl⟩) (isHexByte_self_iff.mpr ⟨_, hg, rfl⟩)
      (isHexByte_self_iff.mpr ⟨_, hb, rfl⟩) rfl
  case h_2 =>
    obtain ⟨r, _, rfl, hr, g, _, rfl, hg, b, _, rfl, hb, a, _, rfl, ha, rfl⟩ := hdigits
    exact .four (isHexByte_self_iff.mpr ⟨_, hr, rfl⟩) (isHexByte_self_iff.mpr ⟨_, hg, rfl⟩)
      (isHexByte_self_iff.mpr ⟨_, hb, rfl⟩) (isHexByte_self_iff.mpr ⟨_, ha, rfl⟩)
  case h_3 =>
    obtain ⟨r, _, rfl, hr, r', _, rfl, hr', g, _, rfl, hg, g', _, rfl, hg', b, _, rfl, hb,
      b', _, rfl, hb', rfl⟩ := hdigits
    exact .six (isHexByte_iff.mpr ⟨_, _, hr, hr', rfl⟩) (isHexByte_iff.mpr ⟨_, _, hg, hg', rfl⟩)
      (isHexByte_iff.mpr ⟨_, _, hb, hb', rfl⟩) rfl
  case h_4 =>
    obtain ⟨r, _, rfl, hr, r', _, rfl, hr', g, _, rfl, hg, g', _, rfl, hg', b, _, rfl, hb,
      b', _, rfl, hb', a, _, rfl, ha, a', _, rfl, ha', rfl⟩ := hdigits
    exact .eight (isHexByte_iff.mpr ⟨_, _, hr, hr', rfl⟩) (isHexByte_iff.mpr ⟨_, _, hg, hg', rfl⟩)
      (isHexByte_iff.mpr ⟨_, _, hb, hb', rfl⟩) (isHexByte_iff.mpr ⟨_, _, ha, ha', rfl⟩)

theorem hexChannels_of_isHexColor (h : IsHexColor digits c) : hexChannels digits = .ok c := by
  obtain ⟨rgb, alpha⟩ := c
  cases h with
  | three red green blue halpha =>
      obtain ⟨r, hr, hred⟩ := isHexByte_self_iff.mp red
      obtain ⟨g, hg, hgreen⟩ := isHexByte_self_iff.mp green
      obtain ⟨b, hb, hblue⟩ := isHexByte_self_iff.mp blue
      cases halpha
      simp [hexChannels, hr, hg, hb, hred, hgreen, hblue]
  | four red green blue alpha =>
      obtain ⟨r, hr, hred⟩ := isHexByte_self_iff.mp red
      obtain ⟨g, hg, hgreen⟩ := isHexByte_self_iff.mp green
      obtain ⟨b, hb, hblue⟩ := isHexByte_self_iff.mp blue
      obtain ⟨a, ha, halpha⟩ := isHexByte_self_iff.mp alpha
      simp [hexChannels, hr, hg, hb, ha, hred, hgreen, hblue, halpha]
  | six red green blue halpha =>
      obtain ⟨r, r', hr, hr', hred⟩ := isHexByte_iff.mp red
      obtain ⟨g, g', hg, hg', hgreen⟩ := isHexByte_iff.mp green
      obtain ⟨b, b', hb, hb', hblue⟩ := isHexByte_iff.mp blue
      cases halpha
      simp [hexChannels, hr, hr', hg, hg', hb, hb', hred, hgreen, hblue]
  | eight red green blue alpha =>
      obtain ⟨r, r', hr, hr', hred⟩ := isHexByte_iff.mp red
      obtain ⟨g, g', hg, hg', hgreen⟩ := isHexByte_iff.mp green
      obtain ⟨b, b', hb, hb', hblue⟩ := isHexByte_iff.mp blue
      obtain ⟨a, a', ha, ha', halpha⟩ := isHexByte_iff.mp alpha
      simp [hexChannels, hr, hr', hg, hg', hb, hb', ha, ha', hred, hgreen, hblue, halpha]

theorem notMem_of_isHexColor {d : Char} (hd : Text.hexDigitValue? d = none)
    (h : IsHexColor digits c) : d ∉ digits := by
  have hdigit (n : Nat) : ¬ Text.IsHexDigit d n := by
    rw [← Text.hexDigitValue?_eq_some_iff, hd]
    exact nofun
  have hne {high low : Char} {b : UInt8} (h : IsHexByte high low b) : d ≠ high ∧ d ≠ low := by
    constructor
    · rintro rfl
      exact hdigit _ h.high
    · rintro rfl
      exact hdigit _ h.low
  cases h with
  | three red green blue =>
      simp [(hne red).1, (hne green).1, (hne blue).1]
  | four red green blue alpha =>
      simp [(hne red).1, (hne green).1, (hne blue).1, (hne alpha).1]
  | six red green blue =>
      simp [hne red, hne green, hne blue]
  | eight red green blue alpha =>
      simp [hne red, hne green, hne blue, hne alpha]

theorem channel_eq_ok_iff {token : Text} {b : UInt8} :
    channel token = .ok b ↔ Text.IsNumeral token b.toNat := by
  have hb := b.toNat_lt
  constructor
  · intro h
    rw [channel] at h
    split at h
    · rename_i n hn
      split at h
      · rename_i hrange
        cases h
        have hvalue : ((UInt8.ofNat n.toNat).toNat : Int) = n := by
          rw [UInt8.toNat_ofNat_of_lt' (by rw [UInt8.size]; omega)]
          omega
        rw [hvalue]
        exact (Text.signed_eq_value_iff.mp hn).1
      · contradiction
    · contradiction
    · contradiction
  · intro h
    have hsigned := Text.signed_eq_value_iff.mpr ⟨h, by omega, by omega⟩
    simp only [channel, hsigned]
    rw [if_pos ⟨by omega, by omega⟩, Int.toNat_natCast, UInt8.ofNat_toNat]

theorem channels_eq_ok_iff : channels t = .ok (c, encoding) ↔
    (∃ r g b, t.splitOn ',' = [r, g, b] ∧ encoding = .triple ∧ IsChannel r c.red ∧
      IsChannel g c.green ∧ IsChannel b c.blue ∧ c.alpha = 255) ∨
    (∃ r g b a, t.splitOn ',' = [r, g, b, a] ∧ encoding = .quad ∧ IsChannel r c.red ∧
      IsChannel g c.green ∧ IsChannel b c.blue ∧ IsChannel a c.alpha) := by
  constructor
  · intro h
    unfold channels at h
    split at h
    · rename_i hsplit
      simp only [List.map_eq_cons_iff, List.map_eq_nil_iff] at hsplit
      obtain ⟨r, _, htokens, rfl, g, _, rfl, rfl, b, _, rfl, rfl, rfl⟩ := hsplit
      obtain ⟨red, hred, h⟩ := exists_of_bind_eq_ok h
      obtain ⟨green, hgreen, h⟩ := exists_of_bind_eq_ok h
      obtain ⟨blue, hblue, h⟩ := exists_of_bind_eq_ok h
      cases h
      exact .inl ⟨r, g, b, htokens, rfl, channel_eq_ok_iff.mp hred, channel_eq_ok_iff.mp hgreen,
        channel_eq_ok_iff.mp hblue, rfl⟩
    · rename_i hsplit
      simp only [List.map_eq_cons_iff, List.map_eq_nil_iff] at hsplit
      obtain ⟨r, _, htokens, rfl, g, _, rfl, rfl, b, _, rfl, rfl, a, _, rfl, rfl, rfl⟩ := hsplit
      obtain ⟨red, hred, h⟩ := exists_of_bind_eq_ok h
      obtain ⟨green, hgreen, h⟩ := exists_of_bind_eq_ok h
      obtain ⟨blue, hblue, h⟩ := exists_of_bind_eq_ok h
      obtain ⟨alpha, halpha, h⟩ := exists_of_bind_eq_ok h
      cases h
      exact .inr ⟨r, g, b, a, htokens, rfl, channel_eq_ok_iff.mp hred,
        channel_eq_ok_iff.mp hgreen, channel_eq_ok_iff.mp hblue, channel_eq_ok_iff.mp halpha⟩
    · contradiction
  · obtain ⟨rgb, alpha⟩ := c
    rintro (⟨r, g, b, htokens, rfl, hr, hg, hb, halpha⟩ |
      ⟨r, g, b, a, htokens, rfl, hr, hg, hb, ha⟩)
    · cases halpha
      rw [channels, htokens]
      simp only [List.map_cons, List.map_nil, channel_eq_ok_iff.mpr hr, channel_eq_ok_iff.mpr hg,
        channel_eq_ok_iff.mpr hb]
      rfl
    · rw [channels, htokens]
      simp only [List.map_cons, List.map_nil, channel_eq_ok_iff.mpr hr, channel_eq_ok_iff.mpr hg,
        channel_eq_ok_iff.mpr hb, channel_eq_ok_iff.mpr ha]
      rfl

theorem unquote?_eq_some_iff {inner : Text} :
    unquote? t = some inner ↔ ∃ quote, IsQuote quote ∧ t = quote :: inner ++ [quote] := by
  cases t with
  | nil => simp [unquote?]
  | cons quote t =>
      rw [unquote?]
      constructor
      · intro h
        split at h
        · rename_i hquote
          cases h
          refine ⟨quote, hquote.1, ?_⟩
          rw [List.cons_append, List.dropLast_append_getLast? _ hquote.2]
        · contradiction
      · rintro ⟨_, hquote, heq⟩
        rw [List.cons_append] at heq
        obtain ⟨rfl, rfl⟩ := List.cons.inj heq
        rw [List.getLast?_concat, List.dropLast_concat, if_pos ⟨hquote, rfl⟩]

theorem literal_of_head?_ne {name : Text} (h : name.head? ≠ some '#') :
    literal names name = match names.get? name with
      | some rgb => .ok ({ toRgb := rgb }, .named)
      | none => .error (.unknownName name) := by
  unfold literal
  split
  · exact absurd rfl h
  · rfl

theorem literal_eq_ok_iff {inner : Text} : literal names inner = .ok (c, encoding) ↔
    (∃ digits, inner = '#' :: digits ∧ encoding = .hex ∧ IsHexColor digits c) ∨
    (inner.head? ≠ some '#' ∧ encoding = .named ∧ names.get? inner = some c.toRgb ∧
      c.alpha = 255) := by
  by_cases hhash : inner.head? = some '#'
  · obtain ⟨digits, rfl⟩ := List.head?_eq_some_iff.mp hhash
    constructor
    · intro h
      obtain ⟨channels, hdigits, h⟩ := exists_of_bind_eq_ok h
      cases h
      exact .inl ⟨digits, rfl, rfl, isHexColor_of_hexChannels_eq_ok hdigits⟩
    · rintro (⟨_, heq, rfl, hdigits⟩ | ⟨hne, -⟩)
      · cases heq
        rw [literal, hexChannels_of_isHexColor hdigits]
        rfl
      · exact absurd hhash hne
  · rw [literal_of_head?_ne hhash]
    constructor
    · intro h
      split at h
      · rename_i hname
        cases h
        exact .inr ⟨hhash, rfl, hname, rfl⟩
      · contradiction
    · rintro (⟨digits, rfl, -⟩ | ⟨-, rfl, hname, halpha⟩)
      · exact absurd rfl hhash
      · obtain ⟨rgb, alpha⟩ := c
        cases halpha
        rw [hname]
        rfl

theorem comma_mem_of_splitOn {tokens : List Text} (h : t.splitOn ',' = tokens)
    (hlength : tokens.length ≠ 1) : ',' ∈ t := by
  by_contra hcomma
  rw [List.splitOn_eq_singleton hcomma] at h
  rw [← h] at hlength
  contradiction

theorem decode_of_comma_mem (h : ',' ∈ t) : decode names t = channels t := by
  rw [decode, if_neg (List.ne_nil_of_mem h), if_pos h]

theorem decode_of_quoted {quote : Char} {inner : Text} (hquote : IsQuote quote)
    (hcomma : ',' ∉ inner) : decode names (quote :: inner ++ [quote]) = literal names inner := by
  have hnotMem : ',' ∉ quote :: inner ++ [quote] := by
    rcases hquote with rfl | rfl <;> simpa using hcomma
  rw [decode, if_neg (by simp), if_neg hnotMem, unquote?_eq_some_iff.mpr ⟨quote, hquote, rfl⟩]

theorem decode_eq_ok_iff : decode names t = .ok (c, encoding) ↔ Denotes names t c encoding := by
  constructor
  · intro h
    by_cases hcomma : ',' ∈ t
    · rw [decode_of_comma_mem hcomma] at h
      rcases channels_eq_ok_iff.mp h with
        ⟨r, g, b, htokens, rfl, hr, hg, hb, ha⟩ | ⟨r, g, b, a, htokens, rfl, hr, hg, hb, ha⟩
      · exact .triple htokens hr hg hb ha
      · exact .quad htokens hr hg hb ha
    · rw [decode, if_neg hcomma] at h
      split at h
      · contradiction
      · split at h
        · rename_i inner hinner
          obtain ⟨quote, hquote, rfl⟩ := unquote?_eq_some_iff.mp hinner
          rcases literal_eq_ok_iff.mp h with
            ⟨digits, rfl, rfl, hdigits⟩ | ⟨hhash, rfl, hname, halpha⟩
          · exact .hex hquote hdigits
          · refine .named hquote ?_ hhash hname halpha
            exact fun hmem => hcomma (by simp [hmem])
        · contradiction
  · intro h
    cases h with
    | triple tokens red green blue alpha =>
        rw [decode_of_comma_mem (comma_mem_of_splitOn tokens (by simp))]
        exact channels_eq_ok_iff.mpr (.inl ⟨_, _, _, tokens, rfl, red, green, blue, alpha⟩)
    | quad tokens red green blue alpha =>
        rw [decode_of_comma_mem (comma_mem_of_splitOn tokens (by simp))]
        exact channels_eq_ok_iff.mpr (.inr ⟨_, _, _, _, tokens, rfl, red, green, blue, alpha⟩)
    | hex hquote hdigits =>
        rw [decode_of_quoted hquote (by simpa using notMem_of_isHexColor rfl hdigits)]
        exact literal_eq_ok_iff.mpr (.inl ⟨_, rfl, rfl, hdigits⟩)
    | named hquote hcomma hhash hname alpha =>
        rw [decode_of_quoted hquote hcomma]
        exact literal_eq_ok_iff.mpr (.inr ⟨hhash, rfl, hname, alpha⟩)

theorem read_eq_ok_iff {color : Color} : read names t = .ok color ↔
    Denotes names t color.toChannels color.encoding ∧ color.source = t := by
  constructor
  · intro h
    obtain ⟨⟨channels, encoding⟩, hdecode, h⟩ := exists_of_bind_eq_ok h
    cases h
    exact ⟨decode_eq_ok_iff.mp hdecode, rfl⟩
  · rintro ⟨hdenotes, hsource⟩
    obtain ⟨channels, encoding, source⟩ := color
    cases hsource
    rw [read, decode_eq_ok_iff.mpr hdenotes]
    rfl

end Arguments

/-- A codec reads the texts of the grammar and no others, and keeps the trimmed text. -/
theorem Codec.parse_eq_ok_iff (codec : Codec) (text : Text) (color : Color) :
    (codec.parse text).result = .ok color ↔
      Arguments.Denotes codec.names (Text.trim text) color.toChannels color.encoding ∧
        color.source = Text.trim text := by
  rw [result_parse, Arguments.read_eq_ok_iff]

end ColorCalls
