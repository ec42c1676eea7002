import ColorCalls.Text.Basic

/-! Search patterns with greedy repetition of single characters and one group, matched by trial and
return: `ways` lists how a text can begin with a pattern in the order in which a search tries it,
and `Finds` takes the first of them at each place, leftmost first and without overlap. -/

namespace ColorCalls

inductive Pattern where
  | empty
  | one (accepts : Char → Bool)
  /-- Any number of characters; as many as possible are tried first. -/
  | many (accepts : Char → Bool)
  | seq (first second : Pattern)
  | group (inner : Pattern)

namespace Pattern

structure Way where
  taken : Text
  captured : Option Text
  rest : Text

@[simp] def runs (accepts : Char → Bool) : Text → List (Text × Text)
  | [] => [([], [])]
  | c :: r =>
      if accepts c then (runs accepts r).map (fun run => (c :: run.1, run.2)) ++ [([], c :: r)]
      else [([], c :: r)]

/-- The ways in which a text can begin with the pattern, in the order in which they are tried. -/
@[simp] def ways : Pattern → Text → List Way
  | .empty, t => [⟨[], none, t⟩]
  | .one _, [] => []
  | .one accepts, c :: r => if accepts c then [⟨[c], none, r⟩] else []
  | .many accepts, t => (runs accepts t).map fun run => ⟨run.1, none, run.2⟩
  | .seq first second, t =>
      (ways first t).flatMap fun u =>
        (ways second u.rest).map fun v => ⟨u.taken ++ v.taken, v.captured <|> u.captured, v.rest⟩
  | .group inner, t => (ways inner t).map fun u => { u with captured := some u.taken }

structure Match where
  start : Nat
  stop : Nat
  text : Text
  captured : Option Text

/-- The matches from the left: each is the first way that is tried at the first place where there is
one, and the next is searched for behind its end. -/
inductive Finds (p : Pattern) : Nat → Text → List Match → Prop where
  | done {offset : Nat} {t : Text}
      (hnone : ∀ before after, before ++ after = t → p.ways after = []) :
      Finds p offset t []
  | next {offset : Nat} {before t : Text} {way : Way} {found : List Match}
      (hbefore : ∀ skipped after, skipped ++ after = before ++ t →
        skipped.length < before.length → p.ways after = [])
      (hfirst : (p.ways t).head? = some way)
      (hrest : Finds p (offset + Text.bytes before + Text.bytes way.taken) way.rest found) :
      Finds p offset (before ++ t)
        (⟨offset + Text.bytes before, offset + Text.bytes before + Text.bytes way.taken,
          way.taken, way.captured⟩ :: found)

theorem mem_runs {accepts : Char → Bool} {t taken rest : Text} :
    (taken, rest) ∈ runs accepts t ↔ t = taken ++ rest ∧ ∀ c ∈ taken, accepts c = true := by
  induction t generalizing taken with
  | nil =>
      constructor
      · intro h
        obtain ⟨rfl, rfl⟩ := Prod.mk.inj (List.mem_singleton.mp h)
        simp
      · intro hparts
        obtain ⟨h, _⟩ := hparts
        obtain ⟨rfl, rfl⟩ := List.append_eq_nil_iff.mp h.symm
        simp [runs]
  | cons d r ih =>
      constructor
      · intro h
        rw [runs] at h
        split at h
        · rename_i hd
          rcases List.mem_append.mp h with h | h
          · obtain ⟨run, hrun, heq⟩ := List.mem_map.mp h
            obtain ⟨rfl, rfl⟩ := Prod.mk.inj heq
            obtain ⟨hr, hall⟩ := ih.mp hrun
            refine ⟨by rw [hr, List.cons_append], ?_⟩
            simpa using ⟨hd, hall⟩
          · obtain ⟨rfl, rfl⟩ := Prod.mk.inj (List.mem_singleton.mp h)
            simp
        · obtain ⟨rfl, rfl⟩ := Prod.mk.inj (List.mem_singleton.mp h)
          simp
      · intro hparts
        obtain ⟨h, hall⟩ := hparts
        cases taken with
        | nil =>
            rw [List.nil_append] at h
            subst h
            rw [runs]
            split <;> simp
        | cons c taken =>
            obtain ⟨rfl, rfl⟩ := List.cons.inj h
            have hd : accepts d = true := hall d List.mem_cons_self
            rw [runs, if_pos hd]
            refine List.mem_append_left _ (List.mem_map.mpr ⟨(taken, rest), ?_, rfl⟩)
            exact ih.mpr ⟨rfl, fun c hc => hall c (List.mem_cons_of_mem d hc)⟩

theorem mem_ways_empty {t : Text} {w : Way} : w ∈ empty.ways t ↔ w = ⟨[], none, t⟩ := by
  rw [ways, List.mem_singleton]

theorem mem_ways_one {accepts : Char → Bool} {t : Text} {w : Way} :
    w ∈ (one accepts).ways t ↔ ∃ c r, accepts c = true ∧ t = c :: r ∧ w = ⟨[c], none, r⟩ := by
  cases t with
  | nil => simp [ways]
  | cons d r =>
      rw [ways]
      split
      · rename_i hd
        simp only [List.mem_singleton]
        constructor
        · intro heq
          subst heq
          exact ⟨d, r, hd, rfl, rfl⟩
        · intro hparts
          obtain ⟨c, r', _, heq, rfl⟩ := hparts
          obtain ⟨rfl, rfl⟩ := List.cons.inj heq
          rfl
      · rename_i hd
        simp only [List.not_mem_nil, false_iff]
        intro hparts
        obtain ⟨c, r', hc, heq, _⟩ := hparts
        obtain ⟨rfl, rfl⟩ := List.cons.inj heq
        exact hd hc

theorem mem_ways_many {accepts : Char → Bool} {t : Text} {w : Way} :
    w ∈ (many accepts).ways t ↔
      ∃ taken rest, (∀ c ∈ taken, accepts c = true) ∧ t = taken ++ rest ∧
        w = ⟨taken, none, rest⟩ := by
  rw [ways, List.mem_map]
  constructor
  · intro hparts
    obtain ⟨⟨taken, rest⟩, hrun, rfl⟩ := hparts
    obtain ⟨ht, hall⟩ := mem_runs.mp hrun
    exact ⟨taken, rest, hall, ht, rfl⟩
  · intro hparts
    obtain ⟨taken, rest, hall, ht, rfl⟩ := hparts
    exact ⟨(taken, rest), mem_runs.mpr ⟨ht, hall⟩, rfl⟩

theorem mem_ways_seq {first second : Pattern} {t : Text} {w : Way} :
    w ∈ (seq first second).ways t ↔
      ∃ u ∈ first.ways t, ∃ v ∈ second.ways u.rest,
        w = ⟨u.taken ++ v.taken, v.captured <|> u.captured, v.rest⟩ := by
  rw [ways, List.mem_flatMap]
  constructor
  · intro hparts
    obtain ⟨u, hu, hw⟩ := hparts
    obtain ⟨v, hv, rfl⟩ := List.mem_map.mp hw
    exact ⟨u, hu, v, hv, rfl⟩
  · intro hparts
    obtain ⟨u, hu, v, hv, rfl⟩ := hparts
    exact ⟨u, hu, List.mem_map.mpr ⟨v, hv, rfl⟩⟩

theorem mem_ways_group {inner : Pattern} {t : Text} {w : Way} :
    w ∈ (group inner).ways t ↔ ∃ u ∈ inner.ways t, w = { u with captured := some u.taken } := by
  rw [ways, List.mem_map]
  exact exists_congr fun u => and_congr_right fun _ => eq_comm

theorem seq_mem_ways {first second : Pattern} {t : Text} {u v : Way} (hu : u ∈ first.ways t)
    (hv : v ∈ second.ways u.rest) :
    ⟨u.taken ++ v.taken, v.captured <|> u.captured, v.rest⟩ ∈ (seq first second).ways t :=
  mem_ways_seq.mpr ⟨u, hu, v, hv, rfl⟩

theorem one_mem_ways {accepts : Char → Bool} {c : Char} (hc : accepts c = true) (rest : Text) :
    ⟨[c], none, rest⟩ ∈ (one accepts).ways (c :: rest) :=
  mem_ways_one.mpr ⟨c, rest, hc, rfl, rfl⟩

theorem many_mem_ways {accepts : Char → Bool} {taken : Text}
    (htaken : ∀ c ∈ taken, accepts c = true) (rest : Text) :
    ⟨taken, none, rest⟩ ∈ (many accepts).ways (taken ++ rest) :=
  mem_ways_many.mpr ⟨taken, rest, htaken, rfl, rfl⟩

theorem group_mem_ways {inner : Pattern} {t : Text} {u : Way} (hu : u ∈ inner.ways t) :
    { u with captured := some u.taken } ∈ (group inner).ways t :=
  mem_ways_group.mpr ⟨u, hu, rfl⟩

def literal (t : Text) : Pattern := t.foldr (fun c p => seq (one (· = c)) p) empty

theorem mem_ways_literal {s t : Text} {w : Way} :
    w ∈ (literal s).ways t ↔ ∃ r, t = s ++ r ∧ w = ⟨s, none, r⟩ := by
  induction s generalizing t w with
  | nil =>
      rw [literal, List.foldr_nil, mem_ways_empty]
      constructor
      · intro heq
        subst heq
        exact ⟨t, rfl, rfl⟩
      · intro hparts
        obtain ⟨r, rfl, rfl⟩ := hparts
        rfl
  | cons c s ih =>
      rw [literal, List.foldr_cons]
      constructor
      · intro h
        obtain ⟨u, hu, v, hv, rfl⟩ := mem_ways_seq.mp h
        obtain ⟨d, r, hd, rfl, rfl⟩ := mem_ways_one.mp hu
        obtain ⟨r', rfl, rfl⟩ := ih.mp hv
        obtain rfl := of_decide_eq_true hd
        exact ⟨r', rfl, rfl⟩
      · intro hparts
        obtain ⟨r, rfl, rfl⟩ := hparts
        exact seq_mem_ways (one_mem_ways (by simp) (s ++ r)) (ih.mpr ⟨r, rfl, rfl⟩)

theorem literal_mem_ways (s rest : Text) : ⟨s, none, rest⟩ ∈ (literal s).ways (s ++ rest) :=
  mem_ways_literal.mpr ⟨rest, rfl, rfl⟩

def oneOrMore (accepts : Char → Bool) : Pattern := seq (one accepts) (many accepts)

theorem mem_ways_oneOrMore {accepts : Char → Bool} {t : Text} {w : Way} :
    w ∈ (oneOrMore accepts).ways t ↔
      ∃ taken rest, taken ≠ [] ∧ (∀ c ∈ taken, accepts c = true) ∧ t = taken ++ rest ∧
        w = ⟨taken, none, rest⟩ := by
  constructor
  · intro h
    obtain ⟨u, hu, v, hv, rfl⟩ := mem_ways_seq.mp h
    obtain ⟨c, r, hc, rfl, rfl⟩ := mem_ways_one.mp hu
    obtain ⟨taken, rest, htaken, rfl, rfl⟩ := mem_ways_many.mp hv
    refine ⟨c :: taken, rest, List.cons_ne_nil c taken, ?_, rfl, rfl⟩
    simpa using ⟨hc, htaken⟩
  · intro hparts
    obtain ⟨taken, rest, hne, hall, rfl, rfl⟩ := hparts
    cases taken with
    | nil => contradiction
    | cons c taken =>
        exact seq_mem_ways (one_mem_ways (hall c List.mem_cons_self) (taken ++ rest))
          (many_mem_ways (fun d hd => hall d (List.mem_cons_of_mem c hd)) rest)

theorem Finds.cons {p : Pattern} {offset : Nat} {c : Char} {r : Text} {found : List Match}
    (hnone : p.ways (c :: r) = []) (h : p.Finds (offset + c.utf8Size) r found) :
    p.Finds offset (c :: r) found := by
  cases h with
  | done hrest =>
      refine .done fun before after hsplit => ?_
      cases before with
      | nil =>
          rw [List.nil_append] at hsplit
          rw [hsplit, hnone]
      | cons d before => exact hrest before after (List.cons.inj hsplit).2
  | @next _ before t way found hbefore hfirst hrest =>
      have hfinds := @Finds.next p offset (c :: before) t way found
      rw [Text.bytes_cons, ← Nat.add_assoc] at hfinds
      refine hfinds (fun skipped after hsplit hlength => ?_) hfirst hrest
      cases skipped with
      | nil =>
          rw [List.nil_append] at hsplit
          rw [hsplit, List.cons_append, hnone]
      | cons d skipped =>
          exact hbefore skipped after (List.cons.inj hsplit).2 (Nat.lt_of_succ_lt_succ hlength)

theorem Finds.here {p : Pattern} {offset : Nat} {t : Text} {way : Way} {found : List Match}
    (hfirst : (p.ways t).head? = some way)
    (h : p.Finds (offset + Text.bytes way.taken) way.rest found) :
    p.Finds offset t
      (⟨offset, offset + Text.bytes way.taken, way.taken, way.captured⟩ :: found) := by
  have hfinds := @Finds.next p offset [] t way found
  rw [Text.bytes_nil, Nat.add_zero] at hfinds
  exact hfinds (fun _ _ _ hlength => absurd hlength (Nat.not_lt_zero _)) hfirst h

end Pattern

end ColorCalls
