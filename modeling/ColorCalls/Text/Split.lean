import ColorCalls.Text.Basic

namespace ColorCalls.Text

def splitFirst? (sep : Char) (t : Text) : Option (Text × Text) :=
  match t.dropWhile (· ≠ sep) with
  | [] => none
  | _ :: after => some (t.takeWhile (· ≠ sep), after)

theorem decide_ne_of_notMem {sep : Char} {t : Text} (h : sep ∉ t) :
    ∀ c ∈ t, decide (c ≠ sep) = true := by
  intro c hc
  rw [decide_eq_true_eq]
  rintro rfl
  exact h hc

theorem splitFirst?_append {sep : Char} {before : Text} (hbefore : sep ∉ before) (after : Text) :
    splitFirst? sep (before ++ sep :: after) = some (before, after) := by
  have hother := decide_ne_of_notMem hbefore
  rw [splitFirst?, List.dropWhile_append_of_pos hother, List.takeWhile_append_of_pos hother]
  simp

theorem splitFirst?_eq_none_iff {sep : Char} {t : Text} : splitFirst? sep t = none ↔ sep ∉ t := by
  constructor
  · intro h hmem
    obtain ⟨before, after, rfl, hbefore⟩ := List.eq_append_cons_of_mem hmem
    rw [splitFirst?_append hbefore] at h
    contradiction
  · intro h
    have hdrop : (t ++ []).dropWhile (· ≠ sep) = [] :=
      List.dropWhile_append_of_pos (decide_ne_of_notMem h)
    rw [List.append_nil] at hdrop
    rw [splitFirst?, hdrop]

theorem splitFirst?_eq_some_iff {sep : Char} {t before after : Text} :
    splitFirst? sep t = some (before, after) ↔ t = before ++ sep :: after ∧ sep ∉ before := by
  constructor
  · intro h
    by_cases hmem : sep ∈ t
    · obtain ⟨before', after', rfl, hbefore⟩ := List.eq_append_cons_of_mem hmem
      rw [splitFirst?_append hbefore] at h
      cases h
      exact ⟨rfl, hbefore⟩
    · rw [splitFirst?_eq_none_iff.mpr hmem] at h
      contradiction
  · intro h
    rw [h.1]
    exact splitFirst?_append h.2 after

/-- The part after the last separator, or the whole text when there is none. -/
def afterLast (sep : Char) (t : Text) : Text :=
  (t.reverse.takeWhile (· ≠ sep)).reverse

def afterStart? : Text → Text → Option Text
  | [], t => some t
  | _ :: _, [] => none
  | c :: start, d :: t => if c = d then afterStart? start t else none

theorem afterStart?_append (start t : Text) : afterStart? start (start ++ t) = some t := by
  induction start with
  | nil => cases t <;> rfl
  | cons c start ih => simp [afterStart?, ih]

theorem afterStart?_eq_some_iff {start t rest : Text} :
    afterStart? start t = some rest ↔ t = start ++ rest := by
  constructor
  · intro h
    induction start generalizing t with
    | nil =>
        simp only [afterStart?, Option.some.injEq] at h
        simp [h]
    | cons c start ih =>
        cases t with
        | nil => simp [afterStart?] at h
        | cons d t =>
            simp only [afterStart?] at h
            split at h
            · rename_i hcd
              rw [hcd, ih h, List.cons_append]
            · contradiction
  · rintro rfl
    exact afterStart?_append start rest

/-- The number of lines; a line feed ends its line, so nothing after the last one is no line. -/
def lineCount (t : Text) : Nat :=
  t.count '\n' + if afterLast '\n' t = [] then 0 else 1

end ColorCalls.Text
