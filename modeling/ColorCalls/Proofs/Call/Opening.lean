import ColorCalls.Call
import ColorCalls.Proofs.Text.Trim

/-! The shape of a call, and what of a text decides whether a call begins at its front. The main
statements are `opening?_eq_some_iff`, which gives the pieces of a call by their shape alone, and
`isSome_opening?_swap`: a call that begins in front of another one does not depend on how that
other one goes on. -/

namespace ColorCalls.Call

/-- The pieces are those of one call: white space at most between the callee and the opening
parenthesis, and arguments that end at the first closing one. -/
structure Opening.Fits (callee : Text) (o : Opening) : Prop where
  head : ∃ blanks, Text.AllBlank blanks ∧ o.head = callee ++ blanks ++ ['(']
  nonempty : o.arguments ≠ []
  closed : ')' ∉ o.arguments

namespace Opening

def text (o : Opening) : Text := o.head ++ o.arguments ++ [')']

theorem whole_eq (o : Opening) : o.whole = o.text ++ o.rest := by
  simp [whole, text]

theorem text_ne_nil (o : Opening) : o.text ≠ [] := by
  simp [text]

theorem bytes_text_pos (o : Opening) : 0 < Text.bytes o.text := by
  rw [text, Text.bytes_append]
  exact Nat.add_pos_right _ (by decide)

theorem Fits.withRest {callee : Text} {o : Opening} (h : o.Fits callee) (rest : Text) :
    ({ o with rest := rest } : Opening).Fits callee :=
  ⟨h.head, h.nonempty, h.closed⟩

end Opening

theorem fits_of_opening? {callee t : Text} {o : Opening} (h : opening? callee t = some o) :
    o.Fits callee := by
  unfold opening? at h
  obtain ⟨afterCallee, _, h⟩ := Option.bind_eq_some_iff.mp h
  split at h
  · rename_i inside _
    split at h
    · dsimp only at h
      split at h
      · contradiction
      · rename_i hnonempty
        cases h
        refine ⟨⟨afterCallee.takeWhile Text.isBlank, ?_, rfl⟩, hnonempty, ?_⟩
        · exact fun c hc => List.all_eq_true.mp List.all_takeWhile c hc
        · intro hmem
          simpa using List.all_eq_true.mp List.all_takeWhile _ hmem
    · contradiction
  · contradiction

theorem opening?_of_fits {callee : Text} {o : Opening} (h : o.Fits callee) :
    opening? callee o.whole = some o := by
  obtain ⟨head, arguments, rest⟩ := o
  obtain ⟨⟨blanks, hblanks, hhead⟩, hnonempty, hclosed⟩ := h
  simp only at hhead hnonempty hclosed
  subst hhead
  have hwhole : Opening.whole ⟨callee ++ blanks ++ ['('], arguments, rest⟩ =
      callee ++ (blanks ++ '(' :: (arguments ++ ')' :: rest)) := by
    simp [Opening.whole]
  have hopen : Text.isBlank '(' = false := by decide
  have harguments : ∀ c ∈ arguments, decide (c ≠ ')') = true := by
    intro c hc
    rw [decide_eq_true_eq]
    intro heq
    subst heq
    exact hclosed hc
  rw [hwhole, opening?, Text.afterStart?_append]
  simp only [Option.bind_eq_bind, Option.bind_some]
  rw [List.dropWhile_append_of_pos hblanks, List.takeWhile_append_of_pos hblanks,
    List.dropWhile_cons_of_neg (by simp [hopen]), List.takeWhile_cons_of_neg (by simp [hopen])]
  simp only
  rw [List.dropWhile_append_of_pos harguments, List.takeWhile_append_of_pos harguments,
    List.dropWhile_cons_of_neg (by simp), List.takeWhile_cons_of_neg (by simp)]
  simp [hnonempty]

theorem opening?_eq_some_iff {callee t : Text} {o : Opening} :
    opening? callee t = some o ↔ o.Fits callee ∧ o.whole = t := by
  constructor
  · intro h
    exact ⟨fits_of_opening? h, whole_of_opening? h⟩
  · intro hparts
    obtain ⟨hfits, rfl⟩ := hparts
    exact opening?_of_fits hfits

theorem opening?_nil (callee : Text) : opening? callee [] = none := by
  cases h : opening? callee [] with
  | none => rfl
  | some o =>
      have hwhole := whole_of_opening? h
      rw [Opening.whole_eq] at hwhole
      exact absurd (List.append_eq_nil_iff.mp hwhole).1 o.text_ne_nil

/-- Behind the callee a call goes on: white space, an opening parenthesis, and a closing one that
does not follow at once. -/
def Opens (after : Text) : Prop :=
  ∃ blanks inside, Text.AllBlank blanks ∧ after = blanks ++ '(' :: inside ∧
    inside.head? ≠ some ')' ∧ ')' ∈ inside

theorem Opening.Fits.opens {callee : Text} {o : Opening} (h : o.Fits callee) :
    ∃ after, o.whole = callee ++ after ∧ Opens after := by
  obtain ⟨blanks, hblanks, hhead⟩ := h.head
  refine ⟨blanks ++ '(' :: (o.arguments ++ ')' :: o.rest), by simp [Opening.whole, hhead],
    blanks, _, hblanks, rfl, ?_, by simp⟩
  cases harguments : o.arguments with
  | nil => exact absurd harguments h.nonempty
  | cons c r =>
      have hc : c ≠ ')' := by
        intro heq
        subst heq
        exact h.closed (by simp [harguments])
      simpa using hc

theorem isSome_opening?_iff {callee t : Text} :
    (opening? callee t).isSome ↔ ∃ after, t = callee ++ after ∧ Opens after := by
  constructor
  · intro h
    obtain ⟨o, ho⟩ := Option.isSome_iff_exists.mp h
    obtain ⟨hfits, rfl⟩ := opening?_eq_some_iff.mp ho
    exact hfits.opens
  · intro hparts
    obtain ⟨_, rfl, blanks, inside, hblanks, rfl, hhead, hclose⟩ := hparts
    obtain ⟨arguments, rest, rfl, hclosed⟩ := List.eq_append_cons_of_mem hclose
    have hnonempty : arguments ≠ [] := by
      intro heq
      subst heq
      exact hhead rfl
    let o : Opening := ⟨callee ++ blanks ++ ['('], arguments, rest⟩
    have hfits : o.Fits callee := ⟨⟨blanks, hblanks, rfl⟩, hnonempty, hclosed⟩
    have hwhole : o.whole = callee ++ (blanks ++ '(' :: (arguments ++ ')' :: rest)) := by
      simp [o, Opening.whole]
    rw [← hwhole, opening?_of_fits hfits]
    rfl

theorem Opens.head?_ne {after : Text} (h : Opens after) : after.head? ≠ some ')' := by
  obtain ⟨blanks, inside, hblanks, rfl, _, _⟩ := h
  cases blanks with
  | nil => simp
  | cons c r =>
      have hc : c ≠ ')' := by
        intro heq
        subst heq
        exact hblanks.notMem (by decide) List.mem_cons_self
      simpa using hc

theorem Opens.mem_close {after : Text} (h : Opens after) : ')' ∈ after := by
  obtain ⟨blanks, inside, _, rfl, _, hclose⟩ := h
  exact List.mem_append_right blanks (List.mem_cons_of_mem _ hclose)

theorem Opens.blanks_append {blanks after : Text} (hblanks : Text.AllBlank blanks)
    (h : Opens after) : Opens (blanks ++ after) := by
  obtain ⟨others, inside, hothers, rfl, hhead, hclose⟩ := h
  exact ⟨blanks ++ others, inside, hblanks.append hothers, (List.append_assoc ..).symm,
    hhead, hclose⟩

/-- When a stretch followed by one text goes on like a call, it also does followed by any text that
itself goes on like a call. -/
theorem Opens.swap {stretch after after' : Text} (h : Opens (stretch ++ after))
    (hafter' : Opens after') : Opens (stretch ++ after') := by
  obtain ⟨blanks, inside, hblanks, heq, hhead, _⟩ := h
  rcases List.append_eq_append_iff.mp heq with ⟨m, rfl, _⟩ | ⟨m, rfl, hm⟩
  · exact hafter'.blanks_append hblanks.left
  · cases m with
    | nil => simpa using hafter'.blanks_append hblanks
    | cons c m =>
        simp only [List.cons_append, List.cons.injEq] at hm
        obtain ⟨rfl, rfl⟩ := hm
        refine ⟨blanks, m ++ after', hblanks, by simp, ?_,
          List.mem_append_right m hafter'.mem_close⟩
        cases m with
        | nil => exact hafter'.head?_ne
        | cons d m => exact hhead

theorem isSome_opening?_swap {callee before after after' : Text}
    (h : (opening? callee (before ++ callee ++ after)).isSome) (hafter' : Opens after') :
    (opening? callee (before ++ callee ++ after')).isSome := by
  obtain ⟨rest, hrest, hopens⟩ := isSome_opening?_iff.mp h
  have hprefix : callee <+: before ++ callee := by
    apply List.prefix_of_prefix_length_le ⟨rest, hrest.symm⟩ (List.prefix_append _ after)
    simp
  obtain ⟨stretch, hstretch⟩ := hprefix
  rw [← hstretch, List.append_assoc, List.append_cancel_left_eq] at hrest
  rw [isSome_opening?_iff]
  refine ⟨stretch ++ after', by rw [← hstretch, List.append_assoc], ?_⟩
  rw [← hrest] at hopens
  exact hopens.swap hafter'

end ColorCalls.Call
