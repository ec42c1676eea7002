import ColorCalls.Proofs.Text.Trim
import ColorCalls.Text.Numeral

/-! Numerals and their readers. The signed reader finds the integer that a numeral denotes, if a
word has room for it (`signed_eq_value_iff`), and where it has none, the digits behind the overflow
stay unread (`signed_eq_overflow_iff`). The unsigned reader takes no `-` (`word?_eq_some_iff`). A
decimal reads back as its integer, and two hexadecimal digits as their byte. Every character of
these is a letter or a digit, so none holds white space or punctuation. -/

namespace ColorCalls.Text

theorem isDigit_of_mem_decimal {n : Nat} {c : Char} (hc : c ∈ decimal n) : c.isDigit = true :=
  Nat.isDigit_of_mem_toDigits (by decide) (by decide) hc

theorem lineFeed_notMem_decimal (n : Nat) : '\n' ∉ decimal n := by
  intro h
  have hdigit := isDigit_of_mem_decimal h
  contradiction

theorem decimal_ne_nil (n : Nat) : decimal n ≠ [] := Nat.toDigits_ne_nil

theorem le_ofDigitChars (t : Text) (n : Nat) : n ≤ Nat.ofDigitChars 10 t n := by
  rw [Nat.ofDigitChars_eq_ofDigitChars_zero]
  have hpow : 0 < 10 ^ t.length := Nat.pow_pos (by decide)
  have hle : n ≤ 10 ^ t.length * n := Nat.le_mul_of_pos_left n hpow
  omega

theorem magnitude_of_digits {limit : Nat} {sign : Int} {t : Text} {n : Nat}
    (hdigits : ∀ c ∈ t, c.isDigit = true) (hlimit : Nat.ofDigitChars 10 t n ≤ limit) :
    magnitude limit sign n t = .value (sign * Nat.ofDigitChars 10 t n) := by
  induction t generalizing n with
  | nil => simp [magnitude]
  | cons c r ih =>
      rw [Nat.ofDigitChars_cons] at hlimit ⊢
      have hc : c.isDigit = true := hdigits c List.mem_cons_self
      have hnext := Nat.le_trans (le_ofDigitChars r _) hlimit
      rw [magnitude, if_pos hc]
      simp only
      rw [if_pos hnext]
      exact ih (fun d hd => hdigits d (List.mem_cons_of_mem c hd)) hlimit

theorem signed_of_isDigit {c : Char} (hc : c.isDigit = true) (r : Text) :
    signed (c :: r) = magnitude 0x7fffffffffffffff 1 0 (c :: r) := by
  unfold signed
  split
  · contradiction
  · rename_i heq
    obtain ⟨rfl, -⟩ := List.cons.inj heq
    contradiction
  · rename_i heq
    obtain ⟨rfl, -⟩ := List.cons.inj heq
    contradiction
  · rfl

theorem signed_of_digits {t : Text} (hne : t ≠ []) (hdigits : ∀ c ∈ t, c.isDigit = true) :
    signed t = magnitude 0x7fffffffffffffff 1 0 t := by
  obtain ⟨c, r, rfl⟩ := List.exists_cons_of_ne_nil hne
  exact signed_of_isDigit (hdigits c List.mem_cons_self) r

theorem signed_decimal {n : Nat} (hn : n ≤ 0x7fffffffffffffff) :
    signed (decimal n) = .value n := by
  have hvalue : Nat.ofDigitChars 10 (decimal n) 0 = n := Nat.ofDigitChars_ten_toDigits
  rw [signed_of_digits (decimal_ne_nil n) fun _ => isDigit_of_mem_decimal,
    magnitude_of_digits (fun _ => isDigit_of_mem_decimal) (by rwa [hvalue]), hvalue, Int.one_mul]

structure IsDigits (t : Text) : Prop where
  ne_nil : t ≠ []
  isDigit : ∀ c ∈ t, c.isDigit = true

/-- The text is an optional sign and one or more digits, and denotes the integer. -/
inductive IsNumeral : Text → Int → Prop where
  | unsigned {digits : Text} (h : IsDigits digits) :
      IsNumeral digits (Nat.ofDigitChars 10 digits 0)
  | plus {digits : Text} (h : IsDigits digits) :
      IsNumeral ('+' :: digits) (Nat.ofDigitChars 10 digits 0)
  | minus {digits : Text} (h : IsDigits digits) :
      IsNumeral ('-' :: digits) (-(Nat.ofDigitChars 10 digits 0 : Nat))

theorem IsNumeral.isDigit_or_of_mem {t : Text} {n : Int} (h : IsNumeral t n) {c : Char}
    (hc : c ∈ t) : c.isDigit = true ∨ c = '+' ∨ c = '-' := by
  cases h with
  | unsigned hdigits => exact .inl (hdigits.isDigit c hc)
  | plus hdigits =>
      rcases List.mem_cons.mp hc with rfl | hc
      · exact .inr (.inl rfl)
      · exact .inl (hdigits.isDigit c hc)
  | minus hdigits =>
      rcases List.mem_cons.mp hc with rfl | hc
      · exact .inr (.inr rfl)
      · exact .inl (hdigits.isDigit c hc)

theorem magnitude_eq_value_iff {limit : Nat} {sign : Int} {t : Text} {n : Nat} {v : Int}
    (hn : n ≤ limit) :
    magnitude limit sign n t = .value v ↔
      (∀ c ∈ t, c.isDigit = true) ∧ Nat.ofDigitChars 10 t n ≤ limit ∧
        v = sign * Nat.ofDigitChars 10 t n := by
  constructor
  · intro h
    induction t generalizing n with
    | nil =>
        cases h
        exact ⟨List.forall_mem_nil _, hn, rfl⟩
    | cons c r ih =>
        rw [magnitude] at h
        split at h
        · rename_i hc
          simp only at h
          split at h
          · rename_i hnext
            obtain ⟨hdigits, hlimit, hv⟩ := ih hnext h
            exact ⟨List.forall_mem_cons.mpr ⟨hc, hdigits⟩, hlimit, hv⟩
          · contradiction
        · contradiction
  · rintro ⟨hdigits, hlimit, rfl⟩
    exact magnitude_of_digits hdigits hlimit

theorem signed_eq_value_iff {t : Text} {n : Int} :
    signed t = .value n ↔ IsNumeral t n ∧ -0x8000000000000000 ≤ n ∧ n ≤ 0x7fffffffffffffff := by
  constructor
  · intro h
    unfold signed at h
    split at h
    · contradiction
    · split at h
      · contradiction
      · rename_i hne
        obtain ⟨hdigits, hlimit, rfl⟩ := (magnitude_eq_value_iff (Nat.zero_le _)).mp h
        rw [Int.one_mul]
        exact ⟨.plus ⟨hne, hdigits⟩, by omega, by omega⟩
    · split at h
      · contradiction
      · rename_i hne
        obtain ⟨hdigits, hlimit, rfl⟩ := (magnitude_eq_value_iff (Nat.zero_le _)).mp h
        rw [Int.neg_one_mul]
        exact ⟨.minus ⟨hne, hdigits⟩, by omega, by omega⟩
    · rename_i hne _ _
      obtain ⟨hdigits, hlimit, rfl⟩ := (magnitude_eq_value_iff (Nat.zero_le _)).mp h
      rw [Int.one_mul]
      exact ⟨.unsigned ⟨hne, hdigits⟩, by omega, by omega⟩
  · rintro ⟨h, hlow, hhigh⟩
    cases h with
    | unsigned hdigits =>
        rw [signed_of_digits hdigits.ne_nil hdigits.isDigit,
          magnitude_eq_value_iff (Nat.zero_le _)]
        exact ⟨hdigits.isDigit, by omega, by omega⟩
    | plus hdigits =>
        rw [signed, if_neg hdigits.ne_nil, magnitude_eq_value_iff (Nat.zero_le _)]
        exact ⟨hdigits.isDigit, by omega, by omega⟩
    | minus hdigits =>
        rw [signed, if_neg hdigits.ne_nil, magnitude_eq_value_iff (Nat.zero_le _)]
        exact ⟨hdigits.isDigit, by omega, by omega⟩

/-- A beginning of the text is a numeral that a signed word has no room for. -/
def Overflows (t : Text) : Prop :=
  ∃ front rest n, t = front ++ rest ∧ IsNumeral front n ∧
    (n < -0x8000000000000000 ∨ 0x7fffffffffffffff < n)

theorem IsNumeral.overflows {t : Text} {n : Int} (h : IsNumeral t n)
    (hrange : n < -0x8000000000000000 ∨ 0x7fffffffffffffff < n) : Overflows t :=
  ⟨t, [], n, (List.append_nil t).symm, h, hrange⟩

theorem IsNumeral.isDigit_of_mem_tail {t : Text} {n : Int} (h : IsNumeral t n) :
    ∀ c ∈ t.tail, c.isDigit = true := by
  cases h with
  | unsigned hdigits => exact fun c hc => hdigits.isDigit c (List.mem_of_mem_tail hc)
  | plus hdigits => exact hdigits.isDigit
  | minus hdigits => exact hdigits.isDigit

theorem magnitude_eq_overflow_iff {limit : Nat} {sign : Int} {t : Text} {n : Nat}
    (hn : n ≤ limit) :
    magnitude limit sign n t = .overflow ↔
      ∃ front rest, t = front ++ rest ∧ (∀ c ∈ front, c.isDigit = true) ∧
        limit < Nat.ofDigitChars 10 front n := by
  induction t generalizing n with
  | nil =>
      apply iff_of_false nofun
      rintro ⟨front, rest, ht, -, hlimit⟩
      obtain ⟨rfl, -⟩ := List.append_eq_nil_iff.mp ht.symm
      exact absurd hn (Nat.not_le.mpr hlimit)
  | cons c r ih =>
      rw [magnitude]
      by_cases hc : c.isDigit = true
      · rw [if_pos hc]
        simp only
        by_cases hnext : 10 * n + (c.toNat - '0'.toNat) ≤ limit
        · rw [if_pos hnext, ih hnext]
          constructor
          · rintro ⟨front, rest, rfl, hdigits, hlimit⟩
            refine ⟨c :: front, rest, rfl, List.forall_mem_cons.mpr ⟨hc, hdigits⟩, ?_⟩
            rwa [Nat.ofDigitChars_cons]
          · rintro ⟨front, rest, ht, hdigits, hlimit⟩
            cases front with
            | nil => exact absurd hn (Nat.not_le.mpr hlimit)
            | cons d front =>
                obtain ⟨rfl, rfl⟩ := List.cons.inj ht
                rw [Nat.ofDigitChars_cons] at hlimit
                exact ⟨front, rest, rfl, (List.forall_mem_cons.mp hdigits).2, hlimit⟩
        · rw [if_neg hnext]
          refine iff_of_true rfl ⟨[c], r, rfl, by simpa using hc, ?_⟩
          rw [Nat.ofDigitChars_cons]
          exact Nat.not_le.mp hnext
      · rw [if_neg hc]
        apply iff_of_false nofun
        rintro ⟨front, rest, ht, hdigits, hlimit⟩
        cases front with
        | nil => exact absurd hn (Nat.not_le.mpr hlimit)
        | cons d front =>
            obtain ⟨rfl, -⟩ := List.cons.inj ht
            exact hc (hdigits c List.mem_cons_self)

theorem isDigits_of_lt_ofDigitChars {t : Text} {limit : Nat}
    (hdigits : ∀ c ∈ t, c.isDigit = true) (hlimit : limit < Nat.ofDigitChars 10 t 0) :
    IsDigits t := by
  refine ⟨?_, hdigits⟩
  rintro rfl
  exact Nat.not_lt_zero limit hlimit

theorem signed_eq_overflow_iff {t : Text} : signed t = .overflow ↔ Overflows t := by
  constructor
  · intro h
    unfold signed at h
    split at h
    · contradiction
    · split at h
      · contradiction
      · obtain ⟨front, rest, rfl, hdigits, hlimit⟩ :=
          (magnitude_eq_overflow_iff (Nat.zero_le _)).mp h
        exact ⟨_, rest, _, rfl, .plus (isDigits_of_lt_ofDigitChars hdigits hlimit), by omega⟩
    · split at h
      · contradiction
      · obtain ⟨front, rest, rfl, hdigits, hlimit⟩ :=
          (magnitude_eq_overflow_iff (Nat.zero_le _)).mp h
        exact ⟨_, rest, _, rfl, .minus (isDigits_of_lt_ofDigitChars hdigits hlimit), by omega⟩
    · obtain ⟨front, rest, rfl, hdigits, hlimit⟩ :=
        (magnitude_eq_overflow_iff (Nat.zero_le _)).mp h
      exact ⟨_, rest, _, rfl, .unsigned (isDigits_of_lt_ofDigitChars hdigits hlimit), by omega⟩
  · rintro ⟨front, rest, n, rfl, hfront, hrange⟩
    cases hfront with
    | unsigned hdigits =>
        obtain ⟨c, digits, rfl⟩ := List.exists_cons_of_ne_nil hdigits.ne_nil
        rw [List.cons_append, signed_of_isDigit (hdigits.isDigit c List.mem_cons_self),
          magnitude_eq_overflow_iff (Nat.zero_le _)]
        exact ⟨c :: digits, rest, rfl, hdigits.isDigit, by omega⟩
    | @plus digits hdigits =>
        rw [List.cons_append, signed, if_neg (List.append_ne_nil_of_left_ne_nil hdigits.ne_nil _),
          magnitude_eq_overflow_iff (Nat.zero_le _)]
        exact ⟨digits, rest, rfl, hdigits.isDigit, by omega⟩
    | @minus digits hdigits =>
        rw [List.cons_append, signed, if_neg (List.append_ne_nil_of_left_ne_nil hdigits.ne_nil _),
          magnitude_eq_overflow_iff (Nat.zero_le _)]
        exact ⟨digits, rest, rfl, hdigits.isDigit, by omega⟩

theorem signed_eq_malformed_iff {t : Text} :
    signed t = .malformed ↔ (∀ n, ¬ IsNumeral t n) ∧ ¬ Overflows t := by
  rw [← signed_eq_overflow_iff]
  constructor
  · intro h
    rw [h]
    refine ⟨fun n hn => ?_, nofun⟩
    by_cases hrange : -0x8000000000000000 ≤ n ∧ n ≤ 0x7fffffffffffffff
    · have hvalue := signed_eq_value_iff.mpr ⟨hn, hrange⟩
      rw [h] at hvalue
      contradiction
    · have hoverflow := signed_eq_overflow_iff.mpr (hn.overflows (by omega))
      rw [h] at hoverflow
      contradiction
  · rintro ⟨hnumeral, hoverflow⟩
    cases hsigned : signed t with
    | value n => exact absurd (signed_eq_value_iff.mp hsigned).1 (hnumeral n)
    | overflow => exact absurd hsigned hoverflow
    | malformed => rfl

theorem digits?_eq_some_iff {t : Text} {n : Nat} :
    digits? t = some n ↔ IsDigits t ∧ Nat.ofDigitChars 10 t 0 = n := by
  have hdigits : (t ≠ [] ∧ t.all Char.isDigit = true) ↔ IsDigits t := by
    rw [List.all_eq_true]
    exact ⟨fun h => ⟨h.1, h.2⟩, fun h => ⟨h.ne_nil, h.isDigit⟩⟩
  rw [digits?, Option.ite_none_right_eq_some, hdigits, Option.some_inj]

theorem IsDigits.head?_ne {t : Text} (h : IsDigits t) {c : Char} (hc : c.isDigit = false) :
    t.head? ≠ some c := by
  intro hhead
  have hdigit := h.isDigit c (List.mem_of_mem_head? hhead)
  rw [hc] at hdigit
  contradiction

theorem word?_eq_some_iff {t : Text} {n : Nat} :
    word? t = some n ↔ IsNumeral t n ∧ t.head? ≠ some '-' ∧ n ≤ maxWord := by
  have hword (digits : Text) : (digits? digits).filter (· ≤ maxWord) = some n ↔
      (IsDigits digits ∧ Nat.ofDigitChars 10 digits 0 = n) ∧ n ≤ maxWord := by
    rw [Option.filter_eq_some_iff, digits?_eq_some_iff, decide_eq_true_eq]
  unfold word?
  split
  · rename_i digits
    rw [hword]
    constructor
    · rintro ⟨⟨hdigits, rfl⟩, hn⟩
      exact ⟨.plus hdigits, by simp, hn⟩
    · rintro ⟨hnumeral, -, hn⟩
      generalize hvalue : (n : Int) = value at hnumeral
      cases hnumeral with
      | unsigned hdigits => exact absurd rfl (hdigits.head?_ne (by decide))
      | plus hdigits => exact ⟨⟨hdigits, Int.ofNat_inj.mp hvalue.symm⟩, hn⟩
  · rename_i hplus
    rw [hword]
    constructor
    · rintro ⟨⟨hdigits, rfl⟩, hn⟩
      exact ⟨.unsigned hdigits, hdigits.head?_ne (by decide), hn⟩
    · rintro ⟨hnumeral, hminus, hn⟩
      generalize hvalue : (n : Int) = value at hnumeral
      cases hnumeral with
      | unsigned hdigits => exact ⟨⟨hdigits, Int.ofNat_inj.mp hvalue.symm⟩, hn⟩
      | plus _ => exact absurd rfl (hplus _)
      | minus _ => exact absurd rfl hminus

theorem word?_decimal {n : Nat} (hn : n ≤ maxWord) : word? (decimal n) = some n := by
  obtain ⟨hdigits, hvalue⟩ := digits?_eq_some_iff.mp (digits?_decimal n)
  refine word?_eq_some_iff.mpr ⟨?_, hdigits.head?_ne (by decide), hn⟩
  have hnumeral := IsNumeral.unsigned hdigits
  rwa [hvalue] at hnumeral

theorem hexDigitValue?_digitChar {n : Nat} (hn : n < 16) :
    hexDigitValue? (Nat.digitChar n) = some n := by
  have hall : ∀ m < 16, hexDigitValue? (Nat.digitChar m) = some m := by decide
  exact hall n hn

theorem mapM_hexDigitValue?_hexByte (b : UInt8) :
    (hexByte b).mapM hexDigitValue? = some [b.toNat / 16, b.toNat % 16] := by
  have hhigh : b.toNat / 16 < 16 := by
    have := b.toNat_lt
    omega
  have hlow : b.toNat % 16 < 16 := Nat.mod_lt _ (by decide)
  simp [hexByte, hexDigitValue?_digitChar hhigh, hexDigitValue?_digitChar hlow]

theorem isAlphanum_of_mem_decimal {n : Nat} {c : Char} (hc : c ∈ decimal n) :
    c.isAlphanum = true := by
  have hdigit := isDigit_of_mem_decimal hc
  simp [Char.isAlphanum, hdigit]

theorem isAlphanum_of_mem_hexByte {b : UInt8} {c : Char} (hc : c ∈ hexByte b) :
    c.isAlphanum = true := by
  have hall : ∀ n < 16, (Nat.digitChar n).isAlphanum = true := by decide
  have hhigh : b.toNat / 16 < 16 := by
    have := b.toNat_lt
    omega
  have hlow : b.toNat % 16 < 16 := Nat.mod_lt _ (by decide)
  rcases List.mem_cons.mp hc with rfl | hc
  · exact hall _ hhigh
  · rw [List.mem_singleton.mp hc]
    exact hall _ hlow

theorem toNat_of_isAlphanum {c : Char} (hc : c.isAlphanum = true) :
    48 ≤ c.toNat ∧ c.toNat ≤ 122 := by
  rcases Bool.or_eq_true_iff.mp hc with halpha | hdigit
  · rcases Bool.or_eq_true_iff.mp halpha with hupper | hlower
    · obtain ⟨hlow, hhigh⟩ := of_decide_eq_true hupper
      exact ⟨Nat.le_trans (by decide) (UInt32.le_iff_toNat_le.mp hlow),
        Nat.le_trans (UInt32.le_iff_toNat_le.mp hhigh) (by decide)⟩
    · obtain ⟨hlow, hhigh⟩ := Bool.and_eq_true_iff.mp hlower
      exact ⟨Nat.le_trans (by decide) (UInt32.le_iff_toNat_le.mp (of_decide_eq_true hlow)),
        Nat.le_trans (UInt32.le_iff_toNat_le.mp (of_decide_eq_true hhigh)) (by decide)⟩
  · obtain ⟨hlow, hhigh⟩ := Char.isDigit_iff_toNat.mp hdigit
    exact ⟨hlow, Nat.le_trans hhigh (by decide)⟩

theorem isBlank_of_isAlphanum {c : Char} (hc : c.isAlphanum = true) : isBlank c = false := by
  obtain ⟨hlow, hhigh⟩ := toNat_of_isAlphanum hc
  simp [isBlank]
  omega

end ColorCalls.Text
