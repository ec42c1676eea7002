import ColorCalls.Proofs.Checked.Cut
import Mathlib.Data.List.Induction

/-! Positions and byte offsets by way of the offsets at which lines begin. Every lookup, cut and
difference on the way is checked, and none fails (`position?_ofText`, `offset?_ofText`). -/

namespace ColorCalls.Checked

structure LineIndex where
  text : Text
  unit : ColumnUnit
  starts : List Nat

/-- The beginnings of the lines behind the first one, for a text that stands at an offset. -/
def startsFrom (offset : Nat) : Text → List Nat
  | [] => []
  | c :: t =>
      if c = '\n' then (offset + 1) :: startsFrom (offset + c.utf8Size) t
      else startsFrom (offset + c.utf8Size) t

/-- The offset at which a column ends, from another column and its offset. -/
def walk (unit : ColumnUnit) (target : Nat) (column offset : Nat) : Text → Option Nat
  | [] => if column = target then some offset else none
  | c :: t =>
      if column = target then some offset
      else if target < column + unit.width c then none
      else walk unit target (column + unit.width c) (offset + c.utf8Size) t

def inLine? (unit : ColumnUnit) (t : Text) (column start stop : Nat) : Option (Option Nat) := do
  let inside ← cut? start stop t
  return walk unit column 0 start inside

namespace LineIndex

def ofText (unit : ColumnUnit) (t : Text) : LineIndex := ⟨t, unit, 0 :: startsFrom 0 t⟩

def position? (index : LineIndex) (offset : Nat) : Option Position := do
  let offset ← snap? index.text (min offset (Text.bytes index.text))
  let line ← minus? (index.starts.takeWhile (· ≤ offset)).length 1
  let start ← index.starts[line]?
  let inside ← cut? start offset index.text
  return ⟨line, index.unit.measure inside⟩

def offset? (index : LineIndex) (p : Position) : Option (Option Nat) :=
  match index.starts[p.line]?, index.starts[p.line + 1]? with
  | none, _ => some none
  | some start, none => inLine? index.unit index.text p.character start (Text.bytes index.text)
  | some start, some next => do
      inLine? index.unit index.text p.character start (← minus? next 1)

end LineIndex

theorem startsFrom_append (offset : Nat) (s t : Text) :
    startsFrom offset (s ++ t) = startsFrom offset s ++ startsFrom (offset + Text.bytes s) t := by
  induction s generalizing offset with
  | nil => rfl
  | cons c s ih =>
      have hsize : offset + c.utf8Size + Text.bytes s = offset + Text.bytes (c :: s) := by
        rw [Text.bytes_cons, Nat.add_assoc]
      rw [List.cons_append, startsFrom, startsFrom, ih, hsize]
      split
      · rfl
      · rfl

theorem length_startsFrom (offset : Nat) (t : Text) :
    (startsFrom offset t).length = t.count '\n' := by
  induction t generalizing offset with
  | nil => rfl
  | cons c t ih =>
      rw [startsFrom, List.count_cons]
      split
      · rename_i hc
        rw [List.length_cons, ih, if_pos (by simpa using hc)]
      · rename_i hc
        rw [ih, if_neg (by simpa using hc), Nat.add_zero]

theorem exists_of_mem_startsFrom {offset start : Nat} {t : Text}
    (h : start ∈ startsFrom offset t) :
    offset < start ∧ ∃ n, t.EndsAt n ∧ start = offset + n := by
  induction t generalizing offset with
  | nil => contradiction
  | cons c t ih =>
      have hpos := c.utf8Size_pos
      have hrest (hmem : start ∈ startsFrom (offset + c.utf8Size) t) :
          offset < start ∧ ∃ n, Text.EndsAt (c :: t) n ∧ start = offset + n := by
        obtain ⟨hlt, n, hends, hstart⟩ := ih hmem
        exact ⟨by omega, c.utf8Size + n, hends.cons c, by omega⟩
      rw [startsFrom] at h
      split at h
      · rename_i hc
        rcases List.mem_cons.mp h with rfl | hmem
        · subst hc
          exact ⟨Nat.lt_succ_self _, 1, ⟨['\n'], t, rfl, rfl⟩, rfl⟩
        · exact hrest hmem
      · exact hrest h

theorem startsFrom_pairwise (offset : Nat) (t : Text) :
    (offset :: startsFrom offset t).Pairwise (· < ·) := by
  induction t generalizing offset with
  | nil => simp [startsFrom]
  | cons c t ih =>
      refine List.pairwise_cons.mpr ⟨fun start hstart => (exists_of_mem_startsFrom hstart).1, ?_⟩
      rw [startsFrom]
      split
      · rename_i hc
        subst hc
        exact ih (offset + 1)
      · exact (List.pairwise_cons.mp (ih (offset + c.utf8Size))).2

/-- The line that a text ends in: where it begins, and how far it goes. -/
theorem exists_lastLine (unit : ColumnUnit) (t : Text) :
    ∃ before line, t = before ++ line ∧
      (0 :: startsFrom 0 t)[t.count '\n']? = some (Text.bytes before) ∧
      Position.atEnd unit t = ⟨t.count '\n', unit.measure line⟩ := by
  induction t using List.reverseRecOn with
  | nil => exact ⟨[], [], rfl, rfl, rfl⟩
  | append_singleton t c ih =>
      rw [startsFrom_append, Position.atEnd_concat, Nat.zero_add]
      by_cases hc : c = '\n'
      · subst hc
        have hcount : (t ++ ['\n']).count '\n' = t.count '\n' + 1 := by simp
        refine ⟨t ++ ['\n'], [], (List.append_nil _).symm, ?_, ?_⟩
        · rw [hcount, List.getElem?_cons_succ, ← length_startsFrom 0 t,
            List.getElem?_append_right (Nat.le_refl _), Nat.sub_self, Text.bytes_append]
          rfl
        · rw [hcount, Position.advance, if_pos rfl]
          obtain ⟨_, _, -, -, hend⟩ := ih
          rw [hend]
          rfl
      · obtain ⟨before, line, ht, hstart, hend⟩ := ih
        have hcount : (t ++ [c]).count '\n' = t.count '\n' := by simp [hc]
        refine ⟨before, line ++ [c], by rw [ht, List.append_assoc], ?_, ?_⟩
        · rw [hcount, startsFrom, if_neg hc, startsFrom, List.append_nil, hstart]
        · rw [hcount, hend, Position.advance, if_neg hc, ColumnUnit.measure_append]
          rfl

theorem takeWhile_starts_append (s t : Text) :
    (0 :: startsFrom 0 (s ++ t)).takeWhile (· ≤ Text.bytes s) = 0 :: startsFrom 0 s := by
  have hwithin : ∀ start ∈ startsFrom 0 s, decide (start ≤ Text.bytes s) = true := by
    intro start hstart
    obtain ⟨-, n, hends, rfl⟩ := exists_of_mem_startsFrom hstart
    rw [decide_eq_true_eq, Nat.zero_add]
    exact hends.le_bytes
  rw [startsFrom_append, Nat.zero_add, List.takeWhile_cons_of_pos (by simp),
    List.takeWhile_append_of_pos hwithin]
  cases hrest : startsFrom (Text.bytes s) t with
  | nil => simp
  | cons start starts =>
      have hbehind := (exists_of_mem_startsFrom (hrest ▸ List.mem_cons_self)).1
      rw [List.takeWhile_cons_of_neg (by simpa using hbehind), List.append_nil]

theorem position?_ofText (unit : ColumnUnit) (t : Text) (offset : Nat) :
    (LineIndex.ofText unit t).position? offset = some (Position.ofOffset unit t offset) := by
  obtain ⟨rest, ht⟩ := Text.takeBytes_isPrefix offset t
  generalize htaken : Text.takeBytes offset t = taken at ht
  obtain ⟨before, line, hline, hstart, hend⟩ := exists_lastLine unit taken
  have hsnap : snap? t (min offset (Text.bytes t)) = some (Text.bytes taken) := by
    rw [snap?_eq, Text.takeBytes_min, htaken]
  have hlookup : (0 :: startsFrom 0 t)[taken.count '\n']? = some (Text.bytes before) := by
    have hlt : taken.count '\n' < (0 :: startsFrom 0 taken).length := by
      rw [List.length_cons, length_startsFrom]
      exact Nat.lt_succ_self _
    rw [← ht, startsFrom_append, ← List.cons_append, List.getElem?_append_left hlt, hstart]
  have hcut : cut? (Text.bytes before) (Text.bytes taken) t = some line := by
    rw [← ht, hline]
    exact cut?_append rfl (Text.bytes_append _ _).symm
  have hpoint : ((0 :: startsFrom 0 t).takeWhile (· ≤ Text.bytes taken)).length =
      taken.count '\n' + 1 := by
    rw [← ht, takeWhile_starts_append, List.length_cons, length_startsFrom]
  simp only [LineIndex.position?, LineIndex.ofText, hsnap, Option.bind_eq_bind, Option.bind_some,
    hpoint, minus?_add, hlookup, hcut]
  rw [Position.ofOffset, htaken, hend]
  rfl

theorem startsFrom_of_notMem {t : Text} (h : '\n' ∉ t) (offset : Nat) : startsFrom offset t = [] := by
  rw [← List.length_eq_zero_iff, length_startsFrom, List.count_eq_zero.mpr h]

theorem startsFrom_line {line : Text} (h : '\n' ∉ line) (offset : Nat) (rest : Text) :
    startsFrom offset (line ++ '\n' :: rest) =
      (offset + Text.bytes line + 1) :: startsFrom (offset + Text.bytes line + 1) rest := by
  rw [startsFrom_append, startsFrom_of_notMem h, List.nil_append, startsFrom, if_pos rfl]
  rfl

variable {unit : ColumnUnit} {l n : Nat}

theorem offset?_line {line : Text} (h : '\n' ∉ line) (rest : Text) :
    Position.offset? unit ⟨l + 1, n⟩ (line ++ '\n' :: rest) =
      (Position.offset? unit ⟨l, n⟩ rest).map (Text.bytes line + 1 + ·) := by
  induction line with
  | nil =>
      rw [List.nil_append, Position.offset?, if_pos rfl]
      rfl
  | cons c line ih =>
      have hc : c ≠ '\n' := fun heq => h (heq ▸ List.mem_cons_self)
      rw [List.cons_append, Position.offset?, if_neg hc,
        ih fun hmem => h (List.mem_cons_of_mem c hmem), Option.map_map]
      congr 1
      funext m
      simp only [Function.comp_apply, Text.bytes_cons]
      omega

theorem offset?_of_notMem {t : Text} (h : '\n' ∉ t) :
    Position.offset? unit ⟨l + 1, n⟩ t = none := by
  induction t with
  | nil => simp [Position.offset?]
  | cons c t ih =>
      have hc : c ≠ '\n' := fun heq => h (heq ▸ List.mem_cons_self)
      rw [Position.offset?, if_neg hc, ih fun hmem => h (List.mem_cons_of_mem c hmem)]
      rfl

theorem walk_eq {line after : Text} (h : '\n' ∉ line) (hafter : ∀ c ∈ after.head?, c = '\n')
    (unit : ColumnUnit) (n column offset : Nat) :
    walk unit (column + n) column offset line =
      (Position.offset? unit ⟨0, n⟩ (line ++ after)).map (offset + ·) := by
  induction line generalizing n column offset with
  | nil =>
      rw [walk, List.nil_append]
      cases n with
      | zero => rw [if_pos (Nat.add_zero _).symm, Position.offset?, Option.map_some, Nat.add_zero]
      | succ n =>
          rw [if_neg (by omega)]
          cases after with
          | nil => simp [Position.offset?]
          | cons c after =>
              have hc : c = '\n' := hafter c rfl
              rw [Position.offset?, if_neg (by simp [hc]), Option.map_none]
  | cons c line ih =>
      have hc : c ≠ '\n' := fun heq => h (heq ▸ List.mem_cons_self)
      rw [walk, List.cons_append]
      cases n with
      | zero => rw [if_pos (Nat.add_zero _).symm, Position.offset?, Option.map_some, Nat.add_zero]
      | succ n =>
          rw [if_neg (by omega), Position.offset?]
          by_cases hwidth : unit.width c ≤ n + 1
          · have hcolumn : column + (n + 1) = column + unit.width c + (n + 1 - unit.width c) := by
              omega
            rw [if_neg (by omega), if_pos ⟨hc, hwidth⟩, hcolumn,
              ih fun hmem => h (List.mem_cons_of_mem c hmem), Option.map_map]
            congr 1
            funext m
            exact Nat.add_assoc _ _ _
          · rw [if_pos (by omega), if_neg (by omega), Option.map_none]

theorem inLine?_eq {line after : Text} (h : '\n' ∉ line) (hafter : ∀ c ∈ after.head?, c = '\n')
    (seen : Text) (unit : ColumnUnit) (n : Nat) :
    inLine? unit (seen ++ (line ++ after)) n (Text.bytes seen)
        (Text.bytes seen + Text.bytes line) =
      some ((Position.offset? unit ⟨0, n⟩ (line ++ after)).map (Text.bytes seen + ·)) := by
  have hcut : cut? (Text.bytes seen) (Text.bytes seen + Text.bytes line)
      (seen ++ (line ++ after)) = some line := by
    rw [← List.append_assoc]
    exact cut?_append rfl rfl
  have hwalk := walk_eq h hafter unit n 0 (Text.bytes seen)
  rw [Nat.zero_add] at hwalk
  simp only [inLine?, hcut, Option.bind_eq_bind, Option.bind_some, hwalk]
  rfl

theorem offset?_from (unit : ColumnUnit) (seen t : Text) (l n : Nat) :
    LineIndex.offset? ⟨seen ++ t, unit, Text.bytes seen :: startsFrom (Text.bytes seen) t⟩
        ⟨l, n⟩ =
      some ((Position.offset? unit ⟨l, n⟩ t).map (Text.bytes seen + ·)) := by
  induction l generalizing seen t with
  | zero =>
      by_cases hmem : '\n' ∈ t
      · obtain ⟨line, rest, rfl, hline⟩ := List.eq_append_cons_of_mem hmem
        rw [startsFrom_line hline, ← inLine?_eq hline (by simp) seen unit n]
        simp [LineIndex.offset?, minus?_add]
      · have hend : ∀ c ∈ ([] : Text).head?, c = '\n' := nofun
        have hline := inLine?_eq hmem hend seen unit n
        rw [List.append_nil, ← Text.bytes_append] at hline
        rw [startsFrom_of_notMem hmem, ← hline]
        rfl
  | succ l ih =>
      by_cases hmem : '\n' ∈ t
      · obtain ⟨line, rest, rfl, hline⟩ := List.eq_append_cons_of_mem hmem
        have hrest := ih (seen ++ (line ++ ['\n'])) rest
        have htext : seen ++ (line ++ ['\n']) ++ rest = seen ++ (line ++ '\n' :: rest) := by simp
        have hsize : Text.bytes (seen ++ (line ++ ['\n'])) =
            Text.bytes seen + Text.bytes line + 1 := by
          simp only [Text.bytes_append, Nat.add_assoc]
          rfl
        rw [htext, hsize] at hrest
        rw [startsFrom_line hline, offset?_line hline, Option.map_map]
        refine hrest.trans ?_
        congr 2
        funext m
        simp only [Function.comp_apply]
        omega
      · rw [offset?_of_notMem hmem, startsFrom_of_notMem hmem]
        rfl

theorem offset?_ofText (unit : ColumnUnit) (t : Text) (p : Position) :
    (LineIndex.ofText unit t).offset? p = some (Position.offset? unit p t) := by
  have hfrom := offset?_from unit [] t p.line p.character
  simpa [LineIndex.ofText] using hfrom

end ColorCalls.Checked
