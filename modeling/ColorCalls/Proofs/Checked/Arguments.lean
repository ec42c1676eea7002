import ColorCalls.Proofs.Checked.Cut
import ColorCalls.Proofs.Codec.Grammar
import ColorCalls.Text.Split

/-! Argument texts read by cuts at byte offsets, with every cut, difference and product checked. The
reader cannot fail and reads what a codec reads (`parse?_eq`): a text is cut between quotes only
when it has both, and digits are cut apart only when all of them are digits. -/

namespace ColorCalls.Checked

def byteOf? (n : Nat) : Option UInt8 := if n < 256 then some (.ofNat n) else none

def byteOfHex? (t : Text) : Option UInt8 :=
  match t.mapM Text.hexDigitValue? with
  | none | some [] => none
  | some values => byteOf? (values.foldl (fun n value => 16 * n + value) 0)

def digitsPerChannel? (size : Nat) : Option Nat :=
  if size = 3 ∨ size = 4 then some 1
  else if size = 6 ∨ size = 8 then some 2
  else none

def channelAt? (literal digits : Text) (width start : Nat) : ExceptT Rejection Option UInt8 := do
  let piece ← cut? start (start + width) digits
  match byteOfHex? piece with
  | none => throw (.hexDigit literal)
  | some b => if width = 1 then byteOf? (b.toNat * 17) else return b

def hexChannels? (literal : Text) : ExceptT Rejection Option Channels := do
  let digits := Text.lower ((Text.afterStart? ['#'] literal).getD literal)
  match digitsPerChannel? (Text.bytes digits) with
  | none => throw (.hexLength (Text.bytes digits))
  | some width =>
      if digits.all fun c => (Text.hexDigitValue? c).isSome then
        let starts := List.range' 0 (Text.bytes digits / width) width
        let channels ← starts.mapM (channelAt? literal digits width)
        return {
          red := channels.getD 0 0
          green := channels.getD 1 0
          blue := channels.getD 2 0
          alpha := channels.getD 3 255 }
      else throw (.hexDigit literal)

def isQuoted (t : Text) : Bool :=
  2 ≤ Text.bytes t &&
    (t.head? = some '"' && t.getLast? = some '"' || t.head? = some '\'' && t.getLast? = some '\'')

def literal? (names : ColorNames) (t : Text) :
    ExceptT Rejection Option (Channels × Encoding) := do
  let stop ← minus? (Text.bytes t) 1
  let inner ← cut? 1 stop t
  if inner.head? = some '#' then return (← hexChannels? inner, .hex)
  else
    match names.get? inner with
    | some rgb => return ({ toRgb := rgb }, .named)
    | none => throw (.unknownName inner)

def decode? (names : ColorNames) (t : Text) : ExceptT Rejection Option (Channels × Encoding) :=
  if t = [] then throw .empty
  else if ',' ∈ t then .mk (some (Arguments.channels t))
  else if isQuoted t then literal? names t
  else throw (.unrecognized t)

def read? (names : ColorNames) (t : Text) : ExceptT Rejection Option Color := do
  let (channels, encoding) ← decode? names t
  return { toChannels := channels, encoding := encoding, source := t }

def parse? (codec : Codec) (text : Text) : Option Reading :=
  match codec.recent.get? (Text.trim text) with
  | some reading => some reading
  | none => (read? codec.names (Text.trim text)).run

theorem utf8Size_of_hexDigitValue?_eq_some {c : Char} {n : Nat}
    (h : Text.hexDigitValue? c = some n) : c.utf8Size = 1 := by
  have hc := Text.toNat_of_hexDigitValue?_eq_some h
  rw [Char.utf8Size_eq_one_iff, UInt32.le_iff_toNat_le]
  exact Nat.le_trans hc (by decide)

theorem lower_hexDigit (c : Char) :
    c.toLower.utf8Size = c.utf8Size ∧
      Text.hexDigitValue? c.toLower = Text.hexDigitValue? c := by
  have hall : ∀ k ≤ 'Z'.toNat, (Char.ofNat k).toLower.utf8Size = (Char.ofNat k).utf8Size ∧
      Text.hexDigitValue? (Char.ofNat k).toLower = Text.hexDigitValue? (Char.ofNat k) := by
    decide +kernel
  by_cases hc : c.toNat ≤ 'Z'.toNat
  · have hupper := hall c.toNat hc
    rwa [Char.ofNat_toNat] at hupper
  · have hkept : c.toLower = c := dif_neg fun hrange => hc hrange.2
    rw [hkept]
    exact ⟨rfl, rfl⟩

theorem bytes_lower (t : Text) : Text.bytes (Text.lower t) = Text.bytes t := by
  induction t with
  | nil => rfl
  | cons c t ih =>
      change c.toLower.utf8Size + Text.bytes (Text.lower t) = c.utf8Size + Text.bytes t
      rw [(lower_hexDigit c).1, ih]

theorem map_hexDigitValue?_lower (t : Text) :
    (Text.lower t).map Text.hexDigitValue? = t.map Text.hexDigitValue? := by
  rw [Text.lower, List.map_map]
  exact List.map_congr_left fun c _ => (lower_hexDigit c).2

theorem bytes_of_map_hexDigitValue? {t : Text} {values : List Nat}
    (h : t.map Text.hexDigitValue? = values.map some) : Text.bytes t = values.length := by
  induction t generalizing values with
  | nil =>
      rw [List.map_nil, eq_comm, List.map_eq_nil_iff] at h
      rw [h]
      rfl
  | cons c t ih =>
      cases values with
      | nil => contradiction
      | cons value values =>
          obtain ⟨hc, hrest⟩ := List.cons.inj h
          rw [Text.bytes_cons, utf8Size_of_hexDigitValue?_eq_some hc, ih hrest, List.length_cons,
            Nat.add_comm]

theorem liftM_some_bind {ε α β : Type} (a : α) (f : α → ExceptT ε Option β) :
    (liftM (some a) : ExceptT ε Option α) >>= f = f a := rfl

theorem byteOf?_of_lt {n : Nat} (h : n < 256) : byteOf? n = some (.ofNat n) := if_pos h

theorem channelAt?_one {before after : Text} {c : Char} {value : Nat} (literal : Text)
    (hvalue : Text.hexDigitValue? c = some value) :
    channelAt? literal (before ++ [c] ++ after) 1 (Text.bytes before) =
      pure (Arguments.doubled value) := by
  have hlt := (Text.hexDigitValue?_eq_some_iff.mp hvalue).lt
  have hcut : cut? (Text.bytes before) (Text.bytes before + 1) (before ++ [c] ++ after) =
      some [c] := by
    apply cut?_append rfl
    rw [Text.bytes_cons, utf8Size_of_hexDigitValue?_eq_some hvalue]
    rfl
  have hbyte : byteOfHex? [c] = some (.ofNat value) := by
    have hvalues : [c].mapM Text.hexDigitValue? = some [value] := by simp [hvalue]
    simp only [byteOfHex?, hvalues, List.foldl_cons, List.foldl_nil, Nat.mul_zero, Nat.zero_add]
    exact byteOf?_of_lt (by omega)
  have htimes : byteOf? ((UInt8.ofNat value).toNat * 17) = some (Arguments.doubled value) := by
    rw [UInt8.toNat_ofNat_of_lt' (by rw [UInt8.size]; omega), byteOf?_of_lt (by omega),
      Nat.mul_comm]
    rfl
  simp only [channelAt?, hcut, liftM_some_bind, hbyte, htimes, if_true]
  rfl

theorem channelAt?_two {before after : Text} {c d : Char} {high low : Nat} (literal : Text)
    (hhigh : Text.hexDigitValue? c = some high) (hlow : Text.hexDigitValue? d = some low) :
    channelAt? literal (before ++ [c, d] ++ after) 2 (Text.bytes before) =
      pure (Arguments.paired high low) := by
  have hlt := (Text.hexDigitValue?_eq_some_iff.mp hhigh).lt
  have hlt' := (Text.hexDigitValue?_eq_some_iff.mp hlow).lt
  have hcut : cut? (Text.bytes before) (Text.bytes before + 2) (before ++ [c, d] ++ after) =
      some [c, d] := by
    apply cut?_append rfl
    simp only [Text.bytes_cons, utf8Size_of_hexDigitValue?_eq_some hhigh,
      utf8Size_of_hexDigitValue?_eq_some hlow]
    rfl
  have hbyte : byteOfHex? [c, d] = some (Arguments.paired high low) := by
    have hvalues : [c, d].mapM Text.hexDigitValue? = some [high, low] := by simp [hhigh, hlow]
    simp only [byteOfHex?, hvalues, List.foldl_cons, List.foldl_nil, Nat.mul_zero, Nat.zero_add]
    exact byteOf?_of_lt (by omega)
  simp only [channelAt?, hcut, liftM_some_bind, hbyte]
  rfl

theorem mapM_channelAt?_one (literal before : Text) {t : Text} {values : List Nat}
    (h : t.map Text.hexDigitValue? = values.map some) :
    (List.range' (Text.bytes before) values.length 1).mapM (channelAt? literal (before ++ t) 1) =
      pure (values.map Arguments.doubled) := by
  induction values generalizing before t with
  | nil => rfl
  | cons value values ih =>
      rw [List.map_cons, List.map_eq_cons_iff] at h
      obtain ⟨c, t, rfl, hc, hrest⟩ := h
      have hsize : Text.bytes (before ++ [c]) = Text.bytes before + 1 := by
        rw [Text.bytes_append, Text.bytes_cons, utf8Size_of_hexDigitValue?_eq_some hc]
        rfl
      have hsplit : before ++ c :: t = before ++ [c] ++ t := by simp
      have hnext := ih (before ++ [c]) hrest
      rw [hsize] at hnext
      rw [hsplit, List.length_cons, List.range'_succ, List.mapM_cons, channelAt?_one literal hc,
        pure_bind, hnext, pure_bind]
      rfl

theorem exists_pairs {n : Nat} {values : List Nat} (h : values.length = 2 * n) :
    ∃ pairs : List (Nat × Nat), pairs.length = n ∧ values = pairs.flatMap fun v => [v.1, v.2] := by
  induction n generalizing values with
  | zero => exact ⟨[], rfl, List.length_eq_zero_iff.mp h⟩
  | succ n ih =>
      obtain ⟨high, rest, rfl⟩ := List.exists_cons_of_length_eq_add_one h
      obtain ⟨low, rest, rfl⟩ := List.exists_cons_of_length_eq_add_one (Nat.succ.inj h)
      obtain ⟨pairs, hpairs, rfl⟩ := ih (Nat.succ.inj (Nat.succ.inj h))
      exact ⟨(high, low) :: pairs, congrArg Nat.succ hpairs, rfl⟩

theorem mapM_channelAt?_two (literal before : Text) {t : Text} (values : List (Nat × Nat))
    (h : t.map Text.hexDigitValue? = (values.flatMap fun v => [v.1, v.2]).map some) :
    (List.range' (Text.bytes before) values.length 2).mapM (channelAt? literal (before ++ t) 2) =
      pure (values.map fun v => Arguments.paired v.1 v.2) := by
  induction values generalizing before t with
  | nil => rfl
  | cons value values ih =>
      rw [List.flatMap_cons, List.cons_append, List.singleton_append, List.map_cons, List.map_cons,
        List.map_eq_cons_iff] at h
      obtain ⟨c, t, rfl, hc, h⟩ := h
      obtain ⟨d, t, rfl, hd, hrest⟩ := List.map_eq_cons_iff.mp h
      have hsize : Text.bytes (before ++ [c, d]) = Text.bytes before + 2 := by
        simp only [Text.bytes_append, Text.bytes_cons, utf8Size_of_hexDigitValue?_eq_some hc,
          utf8Size_of_hexDigitValue?_eq_some hd]
        rfl
      have hsplit : before ++ c :: d :: t = before ++ [c, d] ++ t := by simp
      have hnext := ih (before ++ [c, d]) hrest
      rw [hsize] at hnext
      rw [hsplit, List.length_cons, List.range'_succ, List.mapM_cons,
        channelAt?_two literal hc hd, pure_bind, hnext, pure_bind]
      rfl

theorem mapM_lower (t : Text) :
    (Text.lower t).mapM Text.hexDigitValue? = t.mapM Text.hexDigitValue? := by
  induction t with
  | nil => rfl
  | cons c t ih =>
      change (c.toLower :: Text.lower t).mapM Text.hexDigitValue? = _
      rw [List.mapM_cons, List.mapM_cons, (lower_hexDigit c).2, ih]

theorem all_isSome {α β : Type} (f : α → Option β) (l : List α) :
    (l.all fun a => (f a).isSome) = (l.mapM f).isSome := by
  induction l with
  | nil => rfl
  | cons a l ih =>
      rw [List.all_cons, ih, List.mapM_cons]
      cases f a with
      | none => rfl
      | some b =>
          cases l.mapM f with
          | none => rfl
          | some bs => rfl

theorem getD_afterStart?_literal (digits : Text) :
    (Text.afterStart? ['#'] ('#' :: digits)).getD ('#' :: digits) = digits :=
  congrArg (Option.getD · ('#' :: digits)) (Text.afterStart?_append ['#'] digits)

theorem hexChannels?_of_digits {digits : Text} {values : List Nat} {width count : Nat}
    {channels : List UInt8} (hvalues : digits.mapM Text.hexDigitValue? = some values)
    (hwidth : digitsPerChannel? values.length = some width)
    (hchannels : (List.range' 0 count width).mapM
      (channelAt? ('#' :: digits) (Text.lower digits) width) = pure channels)
    (hcount : values.length / width = count) :
    hexChannels? ('#' :: digits) = pure {
      red := channels.getD 0 0
      green := channels.getD 1 0
      blue := channels.getD 2 0
      alpha := channels.getD 3 255 } := by
  have hsize : Text.bytes (Text.lower digits) = values.length := by
    rw [bytes_lower]
    exact bytes_of_map_hexDigitValue? (Arguments.mapM_eq_some_iff.mp hvalues)
  have hall : ((Text.lower digits).all fun c => (Text.hexDigitValue? c).isSome) = true := by
    rw [all_isSome, mapM_lower, hvalues]
    rfl
  simp only [hexChannels?, getD_afterStart?_literal, hsize, hwidth, hall, if_true, hcount,
    hchannels, pure_bind]

theorem digitsPerChannel?_eq_none_iff {n : Nat} :
    digitsPerChannel? n = none ↔ n ∉ [3, 4, 6, 8] := by
  rw [digitsPerChannel?]
  split
  · simp
    omega
  · split
    · simp
      omega
    · simp
      omega

theorem hexChannels?_of_digitsPerChannel?_eq_none {digits : Text}
    (h : digitsPerChannel? (Text.bytes digits) = none) :
    hexChannels? ('#' :: digits) = throw (.hexLength (Text.bytes digits)) := by
  simp only [hexChannels?, getD_afterStart?_literal, bytes_lower, h]

theorem hexChannels?_of_mapM_eq_none {digits : Text}
    (hvalues : digits.mapM Text.hexDigitValue? = none) :
    (hexChannels? ('#' :: digits)).run = some (Arguments.hexChannels digits) := by
  have hall : ((Text.lower digits).all fun c => (Text.hexDigitValue? c).isSome) = false := by
    rw [all_isSome, mapM_lower, hvalues]
    rfl
  simp only [Arguments.hexChannels, hvalues]
  cases hwidth : digitsPerChannel? (Text.bytes digits) with
  | none =>
      rw [hexChannels?_of_digitsPerChannel?_eq_none hwidth,
        if_neg (digitsPerChannel?_eq_none_iff.mp hwidth)]
      rfl
  | some width =>
      have hsize : Text.bytes digits ∈ [3, 4, 6, 8] := by
        by_contra hsize
        rw [digitsPerChannel?_eq_none_iff.mpr hsize] at hwidth
        contradiction
      simp only [hexChannels?, getD_afterStart?_literal, bytes_lower, hwidth, hall, if_pos hsize]
      rfl

theorem hexChannels_of_length_notMem {digits : Text} {values : List Nat}
    (hvalues : digits.mapM Text.hexDigitValue? = some values)
    (hlength : values.length ∉ [3, 4, 6, 8]) :
    Arguments.hexChannels digits = .error (.hexLength values.length) := by
  have hsize := bytes_of_map_hexDigitValue? (Arguments.mapM_eq_some_iff.mp hvalues)
  unfold Arguments.hexChannels
  split
  case h_5 => rw [hsize, if_neg hlength]
  all_goals
    rename_i heq
    rw [hvalues] at heq
    cases heq
    simp at hlength

theorem run_hexChannels? (digits : Text) :
    (hexChannels? ('#' :: digits)).run = some (Arguments.hexChannels digits) := by
  cases hvalues : digits.mapM Text.hexDigitValue? with
  | none => exact hexChannels?_of_mapM_eq_none hvalues
  | some values =>
      have hmap : (Text.lower digits).map Text.hexDigitValue? = values.map some := by
        rw [map_hexDigitValue?_lower, Arguments.mapM_eq_some_iff.mp hvalues]
      by_cases hlength : values.length ∈ [3, 4, 6, 8]
      · simp only [List.mem_cons, List.not_mem_nil, or_false] at hlength
        have hone := mapM_channelAt?_one ('#' :: digits) [] hmap
        rcases hlength with h | h | h | h
        · obtain ⟨r, g, b, rfl⟩ := List.length_eq_three.mp h
          rw [hexChannels?_of_digits hvalues rfl hone (by simp)]
          simp only [Arguments.hexChannels, hvalues]
          rfl
        · obtain ⟨r, g, b, a, rfl⟩ := List.length_eq_four.mp h
          rw [hexChannels?_of_digits hvalues rfl hone (by simp)]
          simp only [Arguments.hexChannels, hvalues]
          rfl
        · obtain ⟨pairs, hpairs, rfl⟩ := exists_pairs (n := 3) h
          have htwo := mapM_channelAt?_two ('#' :: digits) [] pairs hmap
          obtain ⟨r, g, b, rfl⟩ := List.length_eq_three.mp hpairs
          rw [hexChannels?_of_digits hvalues rfl htwo (by simp)]
          simp only [Arguments.hexChannels, hvalues]
          rfl
        · obtain ⟨pairs, hpairs, rfl⟩ := exists_pairs (n := 4) h
          have htwo := mapM_channelAt?_two ('#' :: digits) [] pairs hmap
          obtain ⟨r, g, b, a, rfl⟩ := List.length_eq_four.mp hpairs
          rw [hexChannels?_of_digits hvalues rfl htwo (by simp)]
          simp only [Arguments.hexChannels, hvalues]
          rfl
      · have hsize := bytes_of_map_hexDigitValue? (Arguments.mapM_eq_some_iff.mp hvalues)
        rw [hexChannels_of_length_notMem hvalues hlength,
          hexChannels?_of_digitsPerChannel?_eq_none
            (digitsPerChannel?_eq_none_iff.mpr (hsize ▸ hlength)), hsize]
        rfl

theorem run_bind_eq {ε α β : Type} {x : ExceptT ε Option α} {result : Except ε α}
    {f : α → ExceptT ε Option β} {g : α → Except ε β} (hx : x.run = some result)
    (hf : ∀ a, (f a).run = some (g a)) : (x >>= f).run = some (result >>= g) := by
  rw [ExceptT.run_bind, hx]
  cases result with
  | error e => rfl
  | ok a => exact hf a

theorem utf8Size_of_isQuote {quote : Char} (h : Arguments.IsQuote quote) : quote.utf8Size = 1 := by
  rcases h with rfl | rfl
  · rfl
  · rfl

theorem isQuoted_iff {t : Text} :
    isQuoted t = true ↔
      ∃ quote inner, Arguments.IsQuote quote ∧ t = quote :: inner ++ [quote] := by
  constructor
  · intro h
    rw [isQuoted, Bool.and_eq_true, decide_eq_true_eq, Bool.or_eq_true] at h
    obtain ⟨hsize, hends⟩ := h
    obtain ⟨quote, hquote, hhead, hlast⟩ : ∃ quote, Arguments.IsQuote quote ∧
        t.head? = some quote ∧ t.getLast? = some quote := by
      rcases hends with hends | hends
      · exact ⟨'"', .inl rfl, by simpa using hends⟩
      · exact ⟨'\'', .inr rfl, by simpa using hends⟩
    obtain ⟨rest, rfl⟩ := List.head?_eq_some_iff.mp hhead
    have hrest : rest ≠ [] := by
      rintro rfl
      rw [Text.bytes_cons, utf8Size_of_isQuote hquote] at hsize
      contradiction
    refine ⟨quote, rest.dropLast, hquote, ?_⟩
    rw [List.getLast?_cons_of_ne_nil hrest] at hlast
    rw [List.cons_append, List.dropLast_append_getLast? _ hlast]
  · rintro ⟨quote, inner, hquote, rfl⟩
    have hlast : (quote :: inner ++ [quote]).getLast? = some quote := List.getLast?_concat
    have hpos := quote.utf8Size_pos
    have hsize : 2 ≤ Text.bytes (quote :: inner ++ [quote]) := by
      simp only [Text.bytes_append, Text.bytes_cons]
      omega
    rw [isQuoted, hlast, decide_eq_true hsize]
    rcases hquote with rfl | rfl <;> simp

theorem run_literal? (names : ColorNames) {quote : Char} (hquote : Arguments.IsQuote quote)
    (inner : Text) :
    (literal? names (quote :: inner ++ [quote])).run = some (Arguments.literal names inner) := by
  have hone := utf8Size_of_isQuote hquote
  have hstop : minus? (Text.bytes (quote :: inner ++ [quote])) 1 = some (1 + Text.bytes inner) := by
    rw [Text.bytes_append, Text.bytes_cons, Text.bytes_cons, hone]
    exact minus?_add _ _
  have hcut : cut? 1 (1 + Text.bytes inner) (quote :: inner ++ [quote]) = some inner := by
    have hbefore : Text.bytes [quote] = 1 := by
      rw [Text.bytes_cons, hone]
      rfl
    exact cut?_append hbefore rfl
  simp only [literal?, hstop, hcut, liftM_some_bind]
  by_cases hhash : inner.head? = some '#'
  · obtain ⟨digits, rfl⟩ := List.head?_eq_some_iff.mp hhash
    rw [if_pos hhash]
    exact run_bind_eq (run_hexChannels? digits) fun _ => rfl
  · rw [if_neg hhash, Arguments.literal_of_head?_ne hhash]
    cases names.get? inner with
    | none => rfl
    | some rgb => rfl

theorem run_decode? (names : ColorNames) (t : Text) :
    (decode? names t).run = some (Arguments.decode names t) := by
  rw [decode?, Arguments.decode]
  split
  · rfl
  · split
    · rfl
    · cases hquoted : isQuoted t with
      | true =>
          obtain ⟨quote, inner, hquote, rfl⟩ := isQuoted_iff.mp hquoted
          rw [if_pos rfl, run_literal? names hquote,
            Arguments.unquote?_eq_some_iff.mpr ⟨quote, hquote, rfl⟩]
      | false =>
          have hnone : Arguments.unquote? t = none := by
            rw [Option.eq_none_iff_forall_not_mem]
            intro inner hinner
            obtain ⟨quote, hquote⟩ := Arguments.unquote?_eq_some_iff.mp hinner
            rw [isQuoted_iff.mpr ⟨quote, inner, hquote⟩] at hquoted
            contradiction
          rw [hnone]
          rfl

theorem run_read? (names : ColorNames) (t : Text) :
    (read? names t).run = some (Arguments.read names t) :=
  run_bind_eq (run_decode? names t) fun _ => rfl

theorem parse?_eq (codec : Codec) (text : Text) :
    parse? codec text = some (codec.parse text).result := by
  rw [parse?]
  cases hrecent : codec.recent.get? (Text.trim text) with
  | none => rw [run_read?, Codec.result_parse]
  | some reading => rw [Codec.parse_of_get?_eq_some hrecent]

end ColorCalls.Checked
