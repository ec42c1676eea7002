import ColorCalls.Text.Basic

/-! Tables of the values of a function at the arguments it was asked for last. Such a table never
changes an answer (`eq_of_get?_eq_some`); which answers it holds is a matter of recency
(`keys_promote`, `keys_put`). -/

namespace ColorCalls

variable {α β : Type} {f : α → β}

/-- Arguments of `f` with their values, the latest first. -/
structure Memo (f : α → β) where
  entries : List (α × β)
  sound : ∀ entry ∈ entries, entry.2 = f entry.1

namespace Memo

def empty : Memo f := ⟨[], by simp⟩

def keys (m : Memo f) : List α := m.entries.map Prod.fst

theorem entries_eq_map_keys (m : Memo f) : m.entries = m.keys.map fun a => (a, f a) := by
  rw [keys, List.map_map]
  refine (List.map_id _).symm.trans (List.map_congr_left ?_)
  intro entry hentry
  exact Prod.ext rfl (m.sound entry hentry)

variable [DecidableEq α]

def get? (m : Memo f) (a : α) : Option β := (m.entries.find? fun entry => entry.1 = a).map Prod.snd

theorem eq_of_get?_eq_some {m : Memo f} {a : α} {b : β} (h : m.get? a = some b) : b = f a := by
  obtain ⟨entry, hentry, rfl⟩ := Option.map_eq_some_iff.mp h
  have hkey : entry.1 = a := by simpa using List.find?_some hentry
  rw [m.sound entry (List.mem_of_find?_eq_some hentry), hkey]

def promote (m : Memo f) (a : α) : Memo f where
  entries := m.entries.filter (fun entry => entry.1 = a) ++
    m.entries.filter fun entry => entry.1 ≠ a
  sound := by
    intro entry hentry
    rcases List.mem_append.mp hentry with hentry | hentry
    · exact m.sound entry (List.mem_filter.mp hentry).1
    · exact m.sound entry (List.mem_filter.mp hentry).1

/-- The table after `a` was entered with its value: `a` comes first, and beyond the capacity the
argument that was left alone longest is dropped. -/
def put (m : Memo f) (capacity : Nat) (a : α) (b : β) (hb : b = f a) : Memo f where
  entries := ((a, b) :: m.entries.filter fun entry => entry.1 ≠ a).take capacity
  sound := by
    intro entry hentry
    rcases List.mem_cons.mp (List.mem_of_mem_take hentry) with rfl | hentry
    · exact hb
    · exact m.sound entry (List.mem_filter.mp hentry).1

theorem keys_promote (m : Memo f) (a : α) :
    (m.promote a).keys = m.keys.filter (· = a) ++ m.keys.filter (· ≠ a) := by
  simp only [keys, promote, List.map_append, List.filter_map]
  rfl

theorem keys_put (m : Memo f) (capacity : Nat) (a : α) (b : β) (hb : b = f a) :
    (m.put capacity a b hb).keys = (a :: m.keys.filter (· ≠ a)).take capacity := by
  simp only [keys, put, List.map_take, List.map_cons, List.filter_map]
  rfl

theorem isSome_get?_iff (m : Memo f) (a : α) : (m.get? a).isSome ↔ a ∈ m.keys := by
  simp [get?, keys, List.find?_isSome]

end Memo

end ColorCalls
