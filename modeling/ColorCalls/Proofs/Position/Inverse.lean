import ColorCalls.Proofs.Position.Counting

/-! The byte offset of a position is the end of the character whose position it is, if there is one
(`offset?_inverts_ofOffset`). Both ways are followed from the front of a text: one more character
there moves every position behind it alike. -/

namespace ColorCalls.Position

variable {unit : ColumnUnit} {p : Position} {t : Text} {offset : Nat}

/-- The place that a position of a text has when a character stands in front of the text. -/
def behind (unit : ColumnUnit) (c : Char) (p : Position) : Position :=
  if c = '\n' then ⟨p.line + 1, p.character⟩
  else if p.line = 0 then ⟨0, unit.width c + p.character⟩
  else p

theorem behind_lineFeed (unit : ColumnUnit) (p : Position) :
    p.behind unit '\n' = ⟨p.line + 1, p.character⟩ := rfl

theorem behind_zero {c : Char} (hc : c ≠ '\n') (n : Nat) :
    behind unit c ⟨0, n⟩ = ⟨0, unit.width c + n⟩ := by
  rw [behind, if_neg hc, if_pos rfl]

theorem behind_succ {c : Char} (hc : c ≠ '\n') (l n : Nat) :
    behind unit c ⟨l + 1, n⟩ = ⟨l + 1, n⟩ := by
  rw [behind, if_neg hc, if_neg (Nat.succ_ne_zero l)]

theorem advance_behind (unit : ColumnUnit) (c d : Char) (p : Position) :
    (p.behind unit c).advance unit d = (p.advance unit d).behind unit c := by
  obtain ⟨l, n⟩ := p
  by_cases hc : c = '\n'
  · subst hc
    rw [behind_lineFeed, behind_lineFeed, advance, advance]
    split <;> rfl
  · cases l with
    | zero =>
        rw [behind_zero hc, advance, advance]
        split
        · exact (behind_succ hc 0 0).symm
        · rw [behind_zero hc, Nat.add_assoc]
    | succ l =>
        rw [behind_succ hc, advance]
        split
        · exact (behind_succ hc (l + 1) 0).symm
        · exact (behind_succ hc l _).symm

theorem atEnd_cons (unit : ColumnUnit) (c : Char) (t : Text) :
    atEnd unit (c :: t) = (atEnd unit t).behind unit c := by
  have hfoldl (p : Position) :
      t.foldl (advance unit) (p.behind unit c) = (t.foldl (advance unit) p).behind unit c := by
    induction t generalizing p with
    | nil => rfl
    | cons d t ih => rw [List.foldl_cons, List.foldl_cons, advance_behind, ih]
  have hfirst : advance unit ⟨0, 0⟩ c = behind unit c ⟨0, 0⟩ := by
    by_cases hc : c = '\n'
    · subst hc
      rfl
    · rw [behind_zero hc, advance, if_neg hc, Nat.add_comm]
  rw [atEnd, List.foldl_cons, hfirst, hfoldl, atEnd]

/-- A position that is none of the text behind the character is the beginning, or stands inside the
character, or behind the end of the line that the character ends. -/
theorem exists_behind (unit : ColumnUnit) (c : Char) (p : Position) :
    p = ⟨0, 0⟩ ∨ (∃ q : Position, p = q.behind unit c) ∨
      p.line = 0 ∧ 0 < p.character ∧ (c = '\n' ∨ p.character < unit.width c) := by
  obtain ⟨l, n⟩ := p
  by_cases hc : c = '\n'
  · subst hc
    cases l with
    | zero =>
        cases n with
        | zero => exact .inl rfl
        | succ n => exact .inr (.inr ⟨rfl, Nat.succ_pos n, .inl rfl⟩)
    | succ l => exact .inr (.inl ⟨⟨l, n⟩, rfl⟩)
  · cases l with
    | zero =>
        by_cases hwidth : unit.width c ≤ n
        · refine .inr (.inl ⟨⟨0, n - unit.width c⟩, ?_⟩)
          rw [behind_zero hc, Nat.add_sub_cancel' hwidth]
        · cases n with
          | zero => exact .inl rfl
          | succ n => exact .inr (.inr ⟨rfl, Nat.succ_pos n, .inr (Nat.not_le.mp hwidth)⟩)
    | succ l => exact .inr (.inl ⟨⟨l + 1, n⟩, (behind_succ hc l n).symm⟩)

theorem offset?_zero (unit : ColumnUnit) (t : Text) : offset? unit ⟨0, 0⟩ t = some 0 := by
  cases t with
  | nil => rfl
  | cons c t => rfl

theorem offset?_nil {p : Position} (hp : p ≠ ⟨0, 0⟩) : offset? unit p [] = none := by
  obtain ⟨l, n⟩ := p
  cases l with
  | zero =>
      cases n with
      | zero => contradiction
      | succ n => rfl
  | succ l => rfl

theorem offset?_behind (unit : ColumnUnit) (c : Char) (p : Position) (t : Text) :
    offset? unit (p.behind unit c) (c :: t) = (offset? unit p t).map (c.utf8Size + ·) := by
  obtain ⟨l, n⟩ := p
  by_cases hc : c = '\n'
  · subst hc
    rfl
  · cases l with
    | zero =>
        have hpos := unit.width_pos c
        rw [behind_zero hc]
        cases hcolumn : unit.width c + n with
        | zero => omega
        | succ m =>
            rw [offset?, if_pos ⟨hc, by omega⟩, show m + 1 - unit.width c = n by omega]
    | succ l => rw [behind_succ hc, offset?, if_neg hc]

theorem offset?_cons_eq_none {c : Char} {p : Position} (hline : p.line = 0) (hpos : 0 < p.character)
    (hc : c = '\n' ∨ p.character < unit.width c) (t : Text) : offset? unit p (c :: t) = none := by
  obtain ⟨l, n⟩ := p
  cases hline
  cases n with
  | zero => contradiction
  | succ n =>
      rw [offset?, if_neg]
      rintro ⟨hne, hwidth⟩
      exact hc.elim hne (Nat.not_lt.mpr hwidth)

theorem offset?_eq_some_iff_exists :
    offset? unit p t = some offset ↔
      ∃ before after, t = before ++ after ∧ Text.bytes before = offset ∧ atEnd unit before = p := by
  induction t generalizing p offset with
  | nil =>
      constructor
      · intro h
        by_cases hp : p = ⟨0, 0⟩
        · subst hp
          rw [offset?_zero] at h
          exact ⟨[], [], rfl, Option.some.inj h, rfl⟩
        · rw [offset?_nil hp] at h
          contradiction
      · rintro ⟨before, after, ht, rfl, rfl⟩
        obtain ⟨rfl, -⟩ := List.append_eq_nil_iff.mp ht.symm
        rfl
  | cons c t ih =>
      constructor
      · intro h
        rcases exists_behind unit c p with rfl | ⟨q, rfl⟩ | ⟨hline, hpos, hc⟩
        · rw [offset?_zero] at h
          exact ⟨[], c :: t, rfl, Option.some.inj h, rfl⟩
        · rw [offset?_behind] at h
          obtain ⟨rest, hrest, rfl⟩ := Option.map_eq_some_iff.mp h
          obtain ⟨before, after, rfl, rfl, rfl⟩ := ih.mp hrest
          exact ⟨c :: before, after, rfl, rfl, atEnd_cons unit c before⟩
        · rw [offset?_cons_eq_none hline hpos hc] at h
          contradiction
      · rintro ⟨before, after, ht, rfl, rfl⟩
        cases before with
        | nil => exact offset?_zero unit (c :: t)
        | cons d before =>
            obtain ⟨rfl, rfl⟩ := List.cons.inj ht
            rw [atEnd_cons, offset?_behind, ih.mpr ⟨before, after, rfl, rfl, rfl⟩]
            rfl

theorem offset?_eq_some_iff :
    offset? unit p t = some offset ↔ t.EndsAt offset ∧ ofOffset unit t offset = p := by
  rw [offset?_eq_some_iff_exists]
  constructor
  · rintro ⟨before, after, rfl, rfl, rfl⟩
    exact ⟨⟨before, after, rfl, rfl⟩, ofOffset_bytes unit before after⟩
  · rintro ⟨⟨before, after, rfl, rfl⟩, rfl⟩
    exact ⟨before, after, rfl, rfl, (ofOffset_bytes unit before after).symm⟩

/-- The position stands behind the last line, behind the end of its line, or inside a character. -/
inductive Misses (unit : ColumnUnit) (t : Text) (p : Position) : Prop where
  | pastText (hline : indexedLines t ≤ p.line)
  | pastLine {before after : Text} (ht : t = before ++ after) (hafter : ∀ c ∈ after.head?, c = '\n')
      (hline : p.line = (atEnd unit before).line)
      (hcolumn : (atEnd unit before).character < p.character)
  | inCharacter {before after : Text} {c : Char} (ht : t = before ++ c :: after) (hc : c ≠ '\n')
      (hline : p.line = (atEnd unit before).line)
      (hlow : (atEnd unit before).character < p.character)
      (hhigh : p.character < (atEnd unit before).character + unit.width c)

theorem exists_shift (unit : ColumnUnit) (c : Char) (l : Nat) :
    ∃ l' shift, ∀ n, behind unit c ⟨l, n⟩ = ⟨l', shift + n⟩ := by
  by_cases hc : c = '\n'
  · subst hc
    exact ⟨l + 1, 0, fun n => by rw [behind_lineFeed, Nat.zero_add]⟩
  · cases l with
    | zero => exact ⟨0, unit.width c, behind_zero hc⟩
    | succ l => exact ⟨l + 1, 0, fun n => by rw [behind_succ hc, Nat.zero_add]⟩

theorem Misses.behind (h : Misses unit t p) (c : Char) :
    Misses unit (c :: t) (p.behind unit c) := by
  have happend {before after : Text} (ht : t = before ++ after) :
      c :: t = (c :: before) ++ after := congrArg (c :: ·) ht
  obtain ⟨l, shift, hshift⟩ := exists_shift unit c p.line
  have hp : p.behind unit c = ⟨l, shift + p.character⟩ := hshift p.character
  have hend {before : Text} (hline : p.line = (atEnd unit before).line) :
      atEnd unit (c :: before) = ⟨l, shift + (atEnd unit before).character⟩ := by
    rw [atEnd_cons, ← hshift, hline]
  cases h with
  | pastText hline =>
      refine .pastText ?_
      obtain ⟨l, n⟩ := p
      rw [indexedLines] at hline ⊢
      by_cases hc : c = '\n'
      · subst hc
        rw [List.count_cons_self, behind_lineFeed]
        exact Nat.succ_le_succ hline
      · cases l with
        | zero => contradiction
        | succ l =>
            rwa [List.count_cons_of_ne hc, behind_succ hc]
  | pastLine ht hafter hline hcolumn =>
      refine .pastLine (happend ht) hafter ?_ ?_
      · rw [hp, hend hline]
      · rw [hp, hend hline]
        exact Nat.add_lt_add_left hcolumn shift
  | inCharacter ht hc hline hlow hhigh =>
      refine .inCharacter (happend ht) hc ?_ ?_ ?_
      · rw [hp, hend hline]
      · rw [hp, hend hline]
        exact Nat.add_lt_add_left hlow shift
      · rw [hp, hend hline, Nat.add_assoc]
        exact Nat.add_lt_add_left hhigh shift

theorem misses_of_offset?_eq_none (h : offset? unit p t = none) : Misses unit t p := by
  induction t generalizing p with
  | nil =>
      obtain ⟨l, n⟩ := p
      cases l with
      | zero =>
          cases n with
          | zero => contradiction
          | succ n => exact .pastLine (List.append_nil []).symm nofun rfl (Nat.succ_pos n)
      | succ l => exact .pastText (Nat.succ_pos l)
  | cons c t ih =>
      rcases exists_behind unit c p with rfl | ⟨q, rfl⟩ | ⟨hline, hpos, hc⟩
      · rw [offset?_zero] at h
        contradiction
      · rw [offset?_behind, Option.map_eq_none_iff] at h
        exact (ih h).behind c
      · by_cases hfeed : c = '\n'
        · exact .pastLine (List.nil_append _).symm (by simpa using hfeed) hline hpos
        · refine .inCharacter (List.nil_append _).symm hfeed hline hpos ?_
          simpa [atEnd] using hc.resolve_left hfeed

theorem atEnd_le_or_advance_le {before after front back : Text}
    (h : before ++ after = front ++ back) (unit : ColumnUnit) :
    atEnd unit before ≤ atEnd unit front ∨
      ∃ c ∈ back.head?, (atEnd unit front).advance unit c ≤ atEnd unit before := by
  rcases List.append_eq_append_iff.mp h with ⟨m, rfl, -⟩ | ⟨m, rfl, rfl⟩
  · left
    rw [atEnd_append]
    exact le_foldl_advance unit _ m
  · cases m with
    | nil =>
        left
        rw [List.append_nil]
        exact le_refl _
    | cons c m =>
        right
        refine ⟨c, rfl, ?_⟩
        rw [atEnd_append]
        exact le_foldl_advance unit _ m

theorem Misses.atEnd_ne (h : Misses unit t p) {before after : Text} (ht : t = before ++ after) :
    atEnd unit before ≠ p := by
  rintro rfl
  cases h with
  | pastText hline =>
      rw [line_atEnd, indexedLines, ht, List.count_append] at hline
      omega
  | pastLine hfront hback hline hcolumn =>
      rcases atEnd_le_or_advance_le (ht.symm.trans hfront) unit with hle | ⟨c, hc, hle⟩
      · rw [le_def] at hle
        omega
      · rw [hback c hc, le_def, advance, if_pos rfl] at hle
        simp only at hle
        omega
  | inCharacter hfront hne hline hlow hhigh =>
      rcases atEnd_le_or_advance_le (ht.symm.trans hfront) unit with hle | ⟨c, hc, hle⟩
      · rw [le_def] at hle
        omega
      · cases hc
        rw [le_def, advance, if_neg hne] at hle
        simp only at hle
        omega

theorem offset?_eq_none_iff : offset? unit p t = none ↔ Misses unit t p := by
  refine ⟨misses_of_offset?_eq_none, fun h => ?_⟩
  rw [Option.eq_none_iff_forall_ne_some]
  intro offset hoffset
  obtain ⟨before, after, ht, -, hp⟩ := offset?_eq_some_iff_exists.mp hoffset
  exact h.atEnd_ne ht hp

example : offset? .utf16 ⟨1, 1⟩ ("é\n😀" : Text) = none := by decide

/-- The byte offset of a position is the end of a character that stands there. No two of them share
a position, none is left out, and a position without an offset stands behind its line, behind the
last line, or inside a character. A walk along the line that the table of lines gives finds the
same. -/
theorem offset?_inverts_ofOffset (unit : ColumnUnit) (t : Text) :
    (∀ p offset, offset? unit p t = some offset ↔
      offset ≤ Text.bytes t ∧ t.EndsAt offset ∧ ofOffset unit t offset = p) ∧
    (∀ m n, t.EndsAt m → t.EndsAt n → ofOffset unit t m = ofOffset unit t n → m = n) ∧
    (∀ before after, t = before ++ after →
      offset? unit (ofOffset unit t (Text.bytes before)) t = some (Text.bytes before)) ∧
    (∀ p, offset? unit p t = none ↔ Misses unit t p) ∧
    ∀ p, (Checked.LineIndex.ofText unit t).offset? p = some (offset? unit p t) := by
  refine ⟨fun p offset => ?_, fun m n hm hn heq => ?_, fun before after ht => ?_,
    fun p => offset?_eq_none_iff, Checked.offset?_ofText unit t⟩
  · rw [offset?_eq_some_iff]
    exact ⟨fun h => ⟨h.1.le_bytes, h⟩, And.right⟩
  · have hoffset := offset?_eq_some_iff.mpr ⟨hm, heq⟩
    rw [offset?_eq_some_iff.mpr ⟨hn, rfl⟩] at hoffset
    exact (Option.some.inj hoffset).symm
  · exact offset?_eq_some_iff.mpr ⟨⟨before, after, ht, rfl⟩, rfl⟩

end ColorCalls.Position
