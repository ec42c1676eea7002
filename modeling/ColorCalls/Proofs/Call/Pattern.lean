import ColorCalls.Proofs.Call.List
import ColorCalls.Proofs.Pattern
import Mathlib.Data.List.Forall2

/-! The search pattern of a call: the callee letter by letter, and `\s*\(\s*([^)]+)\s*\)` behind it.
The arguments can be divided between the group and the white space around it in many ways. Every way
takes the same stretch of the text, and a group with the same trimmed text (`opening?_of_mem_ways`),
so the pattern finds the calls that the search lists (`forall₂_isMatch_of_finds`). -/

namespace ColorCalls.Call

/-- Behind the opening parenthesis: white space, a group of characters other than `)`, white space,
`)`. -/
def insidePattern : Pattern :=
  .seq (.many Text.isBlank) <| .seq (.group (.oneOrMore (· ≠ ')'))) <|
    .seq (.many Text.isBlank) (.one (· = ')'))

def pattern (callee : Text) : Pattern :=
  .seq (.literal callee) <| .seq (.many Text.isBlank) <| .seq (.one (· = '(')) insidePattern

theorem mem_ways_insidePattern {t : Text} {w : Pattern.Way} :
    w ∈ insidePattern.ways t ↔
      ∃ before core after rest, Text.AllBlank before ∧ Text.AllBlank after ∧ core ≠ [] ∧
        (∀ c ∈ core, decide (c ≠ ')') = true) ∧
        t = before ++ (core ++ (after ++ ')' :: rest)) ∧
        w = ⟨before ++ (core ++ (after ++ [')'])), some core, rest⟩ := by
  constructor
  · intro h
    obtain ⟨u, hu, v, hv, rfl⟩ := Pattern.mem_ways_seq.mp h
    obtain ⟨before, _, hbefore, rfl, rfl⟩ := Pattern.mem_ways_many.mp hu
    obtain ⟨group, hgroup, last, hlast, rfl⟩ := Pattern.mem_ways_seq.mp hv
    obtain ⟨inner, hinner, rfl⟩ := Pattern.mem_ways_group.mp hgroup
    obtain ⟨core, _, hne, hcore, rfl, rfl⟩ := Pattern.mem_ways_oneOrMore.mp hinner
    obtain ⟨x, hx, y, hy, rfl⟩ := Pattern.mem_ways_seq.mp hlast
    obtain ⟨after, _, hafter, rfl, rfl⟩ := Pattern.mem_ways_many.mp hx
    obtain ⟨c, rest, hc, rfl, rfl⟩ := Pattern.mem_ways_one.mp hy
    obtain rfl := of_decide_eq_true hc
    exact ⟨before, core, after, rest, hbefore, hafter, hne, hcore, rfl, rfl⟩
  · intro hparts
    obtain ⟨before, core, after, rest, hbefore, hafter, hne, hcore, rfl, rfl⟩ := hparts
    have hclose : (⟨[')'], none, rest⟩ : Pattern.Way) ∈
        (Pattern.one (· = ')')).ways (')' :: rest) := Pattern.one_mem_ways (by simp) rest
    have hend := Pattern.seq_mem_ways (Pattern.many_mem_ways hafter (')' :: rest)) hclose
    have hgroup := Pattern.group_mem_ways
      (Pattern.mem_ways_oneOrMore.mpr ⟨core, after ++ ')' :: rest, hne, hcore, rfl, rfl⟩)
    exact Pattern.seq_mem_ways
      (Pattern.many_mem_ways hbefore (core ++ (after ++ ')' :: rest)))
      (Pattern.seq_mem_ways hgroup hend)

theorem mem_ways_pattern {callee t : Text} {w : Pattern.Way} :
    w ∈ (pattern callee).ways t ↔
      ∃ blanks inside w', Text.AllBlank blanks ∧ w' ∈ insidePattern.ways inside ∧
        t = callee ++ (blanks ++ '(' :: inside) ∧
        w = ⟨callee ++ (blanks ++ '(' :: w'.taken), w'.captured, w'.rest⟩ := by
  constructor
  · intro h
    obtain ⟨u, hu, v, hv, rfl⟩ := Pattern.mem_ways_seq.mp h
    obtain ⟨_, rfl, rfl⟩ := Pattern.mem_ways_literal.mp hu
    obtain ⟨x, hx, y, hy, rfl⟩ := Pattern.mem_ways_seq.mp hv
    obtain ⟨blanks, _, hblanks, rfl, rfl⟩ := Pattern.mem_ways_many.mp hx
    obtain ⟨z, hz, w', hw', rfl⟩ := Pattern.mem_ways_seq.mp hy
    obtain ⟨c, inside, hc, rfl, rfl⟩ := Pattern.mem_ways_one.mp hz
    obtain rfl := of_decide_eq_true hc
    refine ⟨blanks, inside, w', hblanks, hw', rfl, ?_⟩
    cases w'.captured <;> simp
  · intro hparts
    obtain ⟨blanks, inside, w', hblanks, hw', rfl, rfl⟩ := hparts
    have hopen : (⟨['('], none, inside⟩ : Pattern.Way) ∈
        (Pattern.one (· = '(')).ways ('(' :: inside) := Pattern.one_mem_ways (by simp) inside
    have hway := Pattern.seq_mem_ways (Pattern.literal_mem_ways callee (blanks ++ '(' :: inside))
      (Pattern.seq_mem_ways (Pattern.many_mem_ways hblanks ('(' :: inside))
        (Pattern.seq_mem_ways hopen hw'))
    rw [pattern]
    simpa using hway

theorem opening?_of_mem_ways {callee t : Text} {w : Pattern.Way}
    (h : w ∈ (pattern callee).ways t) :
    ∃ o, opening? callee t = some o ∧ w.taken = o.text ∧ w.rest = o.rest ∧
      ∃ core, w.captured = some core ∧ Text.trim core = Text.trim o.arguments := by
  obtain ⟨blanks, inside, w', hblanks, hw', rfl, rfl⟩ := mem_ways_pattern.mp h
  obtain ⟨before, core, after, rest, hbefore, hafter, hne, hcore, rfl, rfl⟩ :=
    mem_ways_insidePattern.mp hw'
  let o : Opening := ⟨callee ++ blanks ++ ['('], before ++ core ++ after, rest⟩
  have hclosed : ')' ∉ before ++ core ++ after := by
    intro hmem
    rcases List.mem_append.mp hmem with hmem | hmem
    · rcases List.mem_append.mp hmem with hmem | hmem
      · exact hbefore.notMem (by decide) hmem
      · simpa using hcore _ hmem
    · exact hafter.notMem (by decide) hmem
  have hfits : o.Fits callee := ⟨⟨blanks, hblanks, rfl⟩, by simp [o, hne], hclosed⟩
  refine ⟨o, opening?_eq_some_iff.mpr ⟨hfits, by simp [o, Opening.whole]⟩,
    by simp [o, Opening.text], rfl, core, rfl, ?_⟩
  exact (Text.trim_append_of_allBlank hbefore hafter core).symm

theorem exists_mem_ways_of_opening? {callee t : Text} {o : Opening}
    (h : opening? callee t = some o) : ∃ w, w ∈ (pattern callee).ways t := by
  obtain ⟨hfits, rfl⟩ := opening?_eq_some_iff.mp h
  obtain ⟨blanks, hblanks, hhead⟩ := hfits.head
  have hcore : ∀ c ∈ o.arguments, decide (c ≠ ')') = true := by
    intro c hc
    rw [decide_eq_true_eq]
    intro heq
    subst heq
    exact hfits.closed hc
  have hinside := mem_ways_insidePattern.mpr
    ⟨[], o.arguments, [], o.rest, Text.allBlank_nil, Text.allBlank_nil, hfits.nonempty, hcore,
      rfl, rfl⟩
  exact ⟨_, mem_ways_pattern.mpr
    ⟨blanks, _, _, hblanks, hinside, by simp [Opening.whole, hhead], rfl⟩⟩

theorem ways_eq_nil_iff {callee t : Text} :
    (pattern callee).ways t = [] ↔ opening? callee t = none := by
  constructor
  · intro h
    cases ho : opening? callee t with
    | none => rfl
    | some o =>
        obtain ⟨w, hw⟩ := exists_mem_ways_of_opening? ho
        rw [h] at hw
        contradiction
  · intro h
    refine List.eq_nil_iff_forall_not_mem.mpr fun w hw => ?_
    obtain ⟨o, ho, _⟩ := opening?_of_mem_ways hw
    rw [h] at ho
    contradiction

/-- The match is the call; its group is the arguments up to white space at both ends. -/
structure IsMatch (call : Call) (found : Pattern.Match) : Prop where
  start : found.start = call.start
  stop : found.stop = call.stop
  text : found.text = call.text
  captured : ∃ core, found.captured = some core ∧ Text.trim core = Text.trim call.arguments

theorem listFrom_skip {callee : Text} (offset : Nat) (before rest : Text)
    (hnone : ∀ skipped after, skipped ++ after = before ++ rest →
      skipped.length < before.length → opening? callee after = none) :
    listFrom callee offset (before ++ rest) =
      listFrom callee (offset + Text.bytes before) rest := by
  induction before generalizing offset with
  | nil => rfl
  | cons c before ih =>
      have hfirst : opening? callee (c :: (before ++ rest)) = none :=
        hnone [] _ rfl (Nat.zero_lt_succ _)
      rw [List.cons_append, listFrom_of_eq_none offset hfirst, ih, Text.bytes_cons,
        Nat.add_assoc]
      intro skipped after hsplit hlength
      exact hnone (c :: skipped) after (by rw [List.cons_append, hsplit, List.cons_append])
        (Nat.succ_lt_succ hlength)

theorem forall₂_isMatch_of_finds {callee t : Text} {offset : Nat} {found : List Pattern.Match}
    (h : (pattern callee).Finds offset t found) :
    List.Forall₂ IsMatch (listFrom callee offset t) found := by
  induction h with
  | @done offset t hnone =>
      have hlist := listFrom_skip offset t [] fun skipped after hsplit _ =>
        ways_eq_nil_iff.mp (hnone skipped after (by rw [hsplit, List.append_nil]))
      rw [List.append_nil, listFrom_nil] at hlist
      rw [hlist]
      exact .nil
  | @next offset before t way found hbefore hfirst _ ih =>
      obtain ⟨o, ho, htaken, hrest, core, hcaptured, htrim⟩ :=
        opening?_of_mem_ways (List.mem_of_mem_head? hfirst)
      rw [listFrom_skip offset before t fun skipped after hsplit hlength =>
        ways_eq_nil_iff.mp (hbefore skipped after hsplit hlength), listFrom_of_eq_some _ ho]
      refine .cons ⟨rfl, by rw [htaken]; rfl, htaken, core, hcaptured, htrim⟩ ?_
      rw [htaken, hrest] at ih
      exact ih

theorem exists_finds (callee : Text) (offset : Nat) (t : Text) :
    ∃ found, (pattern callee).Finds offset t found := by
  induction offset, t using listFrom_induction callee with
  | nil offset =>
      refine ⟨[], .done fun before after hsplit => ?_⟩
      obtain ⟨-, rfl⟩ := List.append_eq_nil_iff.mp hsplit
      exact ways_eq_nil_iff.mpr (opening?_nil callee)
  | call offset o hfits ih =>
      obtain ⟨found, hfound⟩ := ih
      obtain ⟨w, hw⟩ := exists_mem_ways_of_opening? (opening?_of_fits hfits)
      cases hways : (pattern callee).ways o.whole with
      | nil =>
          rw [hways] at hw
          contradiction
      | cons first others =>
          have hfirst : first ∈ (pattern callee).ways o.whole := by
            rw [hways]
            exact List.mem_cons_self
          obtain ⟨o', ho', htaken, hrest, _⟩ := opening?_of_mem_ways hfirst
          obtain rfl := Option.some.inj ((opening?_of_fits hfits).symm.trans ho')
          have hbehind :
              (pattern callee).Finds (offset + Text.bytes first.taken) first.rest found := by
            rw [htaken, hrest]
            exact hfound
          exact ⟨_, Pattern.Finds.here (by rw [hways]; rfl) hbehind⟩
  | skip offset c r hnone ih =>
      obtain ⟨found, hfound⟩ := ih
      exact ⟨found, hfound.cons (ways_eq_nil_iff.mpr hnone)⟩

end ColorCalls.Call
