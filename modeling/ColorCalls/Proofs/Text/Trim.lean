import ColorCalls.Text.Blank
import Mathlib.Data.List.Basic

namespace ColorCalls.Text

def AllBlank (t : Text) : Prop := ∀ c ∈ t, isBlank c = true

structure IsTrimmed (t : Text) : Prop where
  first : ∀ c ∈ t.head?, isBlank c = false
  last : ∀ c ∈ t.getLast?, isBlank c = false

theorem allBlank_nil : AllBlank [] := by
  intro c hc
  cases hc

theorem AllBlank.append {s t : Text} (hs : AllBlank s) (ht : AllBlank t) :
    AllBlank (s ++ t) := by
  intro c hc
  rcases List.mem_append.mp hc with hc | hc
  · exact hs c hc
  · exact ht c hc

theorem AllBlank.left {s t : Text} (h : AllBlank (s ++ t)) : AllBlank s :=
  fun c hc => h c (List.mem_append_left t hc)

theorem AllBlank.notMem {t : Text} {c : Char} (h : AllBlank t) (hc : isBlank c = false) :
    c ∉ t := by
  intro hmem
  rw [h c hmem] at hc
  contradiction

theorem IsTrimmed.of_forall {t : Text} (h : ∀ c ∈ t, isBlank c = false) : IsTrimmed t where
  first := fun c hc => h c (List.mem_of_mem_head? hc)
  last := fun c hc => h c (List.mem_of_mem_getLast? hc)

/-- What stands between two trimmed texts does not matter. -/
theorem IsTrimmed.between {s t : Text} (hs : IsTrimmed s) (hsne : s ≠ []) (middle : Text)
    (ht : IsTrimmed t) (htne : t ≠ []) : IsTrimmed (s ++ middle ++ t) where
  first := by
    rw [List.append_assoc, List.head?_append_of_ne_nil s hsne]
    exact hs.first
  last := by
    rw [List.getLast?_append_of_ne_nil _ htne]
    exact ht.last

theorem IsTrimmed.enclosed {c : Char} (hc : isBlank c = false) (t : Text) :
    IsTrimmed (c :: t ++ [c]) := by
  have hsingle : IsTrimmed [c] := .of_forall (List.forall_mem_singleton.mpr hc)
  exact hsingle.between (List.cons_ne_nil c []) t hsingle (List.cons_ne_nil c [])

theorem trimStart_append_of_allBlank {s : Text} (hs : AllBlank s) (t : Text) :
    trimStart (s ++ t) = trimStart t :=
  List.dropWhile_append_of_pos hs

theorem trimStart_of_allBlank {t : Text} (h : AllBlank t) : trimStart t = [] := by
  simpa [trimStart] using trimStart_append_of_allBlank h []

theorem trimStart_eq_self {t : Text} (h : ∀ c ∈ t.head?, isBlank c = false) :
    trimStart t = t := by
  cases t with
  | nil => rfl
  | cons c r =>
      have hc : isBlank c = false := h c rfl
      simp [trimStart, hc]

theorem trimStart_append_cons {c : Char} (hc : isBlank c = false) (before after : Text) :
    trimStart (before ++ c :: after) = trimStart before ++ c :: after := by
  have hsplit : trimStart (before ++ c :: after) =
      if (trimStart before).isEmpty then trimStart (c :: after)
      else trimStart before ++ c :: after := List.dropWhile_append
  rw [hsplit]
  split
  · rename_i hempty
    rw [List.isEmpty_iff.mp hempty, List.nil_append]
    exact trimStart_eq_self fun d hd => Option.some.inj hd ▸ hc
  · rfl

theorem head?_trimStart (t : Text) : ∀ c ∈ (trimStart t).head?, isBlank c = false := by
  induction t with
  | nil =>
      intro c hc
      cases hc
  | cons d r ih =>
      cases hd : isBlank d with
      | true => simpa [trimStart, hd] using ih
      | false => simp [trimStart, hd]

theorem trimEnd_eq_reverse (t : Text) : trimEnd t = (trimStart t.reverse).reverse := rfl

theorem trimEnd_append_of_allBlank (s : Text) {t : Text} (ht : AllBlank t) :
    trimEnd (s ++ t) = trimEnd s := by
  have hreverse : AllBlank t.reverse := fun c hc => ht c (List.mem_reverse.mp hc)
  rw [trimEnd_eq_reverse, List.reverse_append, trimStart_append_of_allBlank hreverse,
    trimEnd_eq_reverse]

theorem trimEnd_eq_self {t : Text} (h : ∀ c ∈ t.getLast?, isBlank c = false) :
    trimEnd t = t := by
  rw [trimEnd_eq_reverse, trimStart_eq_self, List.reverse_reverse]
  rwa [List.head?_reverse]

theorem getLast?_trimEnd (t : Text) : ∀ c ∈ (trimEnd t).getLast?, isBlank c = false := by
  rw [trimEnd_eq_reverse, List.getLast?_reverse]
  exact head?_trimStart t.reverse

theorem trimEnd_isPrefix (t : Text) : trimEnd t <+: t := by
  rw [trimEnd_eq_reverse, ← List.reverse_suffix, List.reverse_reverse]
  exact List.dropWhile_suffix isBlank

theorem exists_allBlank_append_trimStart (t : Text) :
    ∃ blanks, AllBlank blanks ∧ blanks ++ trimStart t = t :=
  ⟨t.takeWhile isBlank, List.all_eq_true.mp List.all_takeWhile, List.takeWhile_append_dropWhile⟩

theorem exists_trimEnd_append_allBlank (t : Text) :
    ∃ blanks, AllBlank blanks ∧ trimEnd t ++ blanks = t := by
  obtain ⟨blanks, hblanks, ht⟩ := exists_allBlank_append_trimStart t.reverse
  refine ⟨blanks.reverse, fun c hc => hblanks c (List.mem_reverse.mp hc), ?_⟩
  rw [trimEnd_eq_reverse, ← List.reverse_append, ht, List.reverse_reverse]

theorem trim_append_of_allBlank {before after : Text} (hbefore : AllBlank before)
    (hafter : AllBlank after) (t : Text) : trim (before ++ t ++ after) = trim t := by
  have hstart : trimStart (before ++ t ++ after) = trimStart (t ++ after) := by
    rw [List.append_assoc, trimStart_append_of_allBlank hbefore]
  have hsplit : trimStart (t ++ after) =
      if (trimStart t).isEmpty then trimStart after else trimStart t ++ after :=
    List.dropWhile_append
  unfold trim
  rw [hstart, hsplit]
  split
  · rename_i hempty
    rw [List.isEmpty_iff.mp hempty, trimStart_of_allBlank hafter]
  · rw [trimEnd_append_of_allBlank _ hafter]

theorem trim_append_cons {c : Char} (hc : isBlank c = false) (before after : Text) :
    trim (before ++ c :: after) = trimStart before ++ c :: trimEnd after := by
  rw [trim, trimStart_append_cons hc, trimEnd_eq_reverse, List.reverse_append, List.reverse_cons,
    List.append_assoc, List.singleton_append, trimStart_append_cons hc, List.reverse_append,
    List.reverse_cons, List.reverse_reverse, List.append_assoc, List.singleton_append,
    trimEnd_eq_reverse]

theorem mem_trim_of_mem {t : Text} {c : Char} (hc : c ∈ t) (hblank : isBlank c = false) :
    c ∈ trim t := by
  obtain ⟨before, after, rfl⟩ := List.append_of_mem hc
  rw [trim_append_cons hblank]
  exact List.mem_append_right _ List.mem_cons_self

theorem IsTrimmed.trim_eq {t : Text} (h : IsTrimmed t) : trim t = t := by
  rw [trim, trimStart_eq_self h.first, trimEnd_eq_self h.last]

theorem isTrimmed_trim (t : Text) : IsTrimmed (trim t) := by
  constructor
  · intro c hc
    apply head?_trimStart t c
    obtain ⟨after, hafter⟩ := trimEnd_isPrefix (trimStart t)
    have hhead : (trimEnd (trimStart t)).head? = some c := hc
    rw [← hafter, List.head?_append, hhead]
    rfl
  · exact getLast?_trimEnd (trimStart t)

theorem isTrimmed_iff {t : Text} : IsTrimmed t ↔ trim t = t := by
  refine ⟨IsTrimmed.trim_eq, fun h => ?_⟩
  rw [← h]
  exact isTrimmed_trim t

instance : DecidablePred IsTrimmed := fun _ => decidable_of_iff _ isTrimmed_iff.symm

theorem trim_subset (t : Text) : trim t ⊆ t := by
  intro c hc
  have hstart : c ∈ trimStart t := (trimEnd_isPrefix (trimStart t)).subset hc
  exact (List.dropWhile_suffix isBlank).subset hstart

theorem trim_trimStart (t : Text) : trim (trimStart t) = trim t := by
  obtain ⟨blanks, hblanks, ht⟩ := exists_allBlank_append_trimStart t
  have htrim := trim_append_of_allBlank hblanks allBlank_nil (trimStart t)
  rw [List.append_nil, ht] at htrim
  exact htrim.symm

theorem trim_trimEnd (t : Text) : trim (trimEnd t) = trim t := by
  obtain ⟨blanks, hblanks, ht⟩ := exists_trimEnd_append_allBlank t
  have htrim := trim_append_of_allBlank allBlank_nil hblanks (trimEnd t)
  rw [List.nil_append, ht] at htrim
  exact htrim.symm

@[simp] theorem trim_trim (t : Text) : trim (trim t) = trim t :=
  (isTrimmed_trim t).trim_eq

end ColorCalls.Text
