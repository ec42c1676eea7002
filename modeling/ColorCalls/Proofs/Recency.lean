import ColorCalls.Memo
import Mathlib.Data.List.Nodup

/-! Recency. Of the arguments that were asked for, the latest first, `latest n` are the last `n`
distinct ones. A table whose keys they are has the same keys as they are after one more argument,
whether that one is found in it (`keys_promote_eq_latest`) or entered (`keys_put_eq_latest`). -/

namespace ColorCalls

variable {α β : Type} [DecidableEq α]

theorem nodup_cons_filter {entries : List (α × β)} (hentries : (entries.map Prod.fst).Nodup) (a : α)
    (b : β) : (((a, b) :: entries.filter fun entry => entry.1 ≠ a).map Prod.fst).Nodup := by
  rw [List.map_cons, List.nodup_cons]
  refine ⟨by simp, hentries.sublist (List.filter_sublist.map Prod.fst)⟩

theorem take_filter_ne_take {l : List α} (hl : l.Nodup) (a : α) (n : Nat) :
    ((l.take (n + 1)).filter (· ≠ a)).take n = (l.filter (· ≠ a)).take n := by
  induction l generalizing n with
  | nil => rfl
  | cons b l ih =>
      obtain ⟨hnotMem, hrest⟩ := List.nodup_cons.mp hl
      rw [List.take_succ_cons]
      by_cases hb : b = a
      · subst hb
        have hkept : ∀ l' : List α, l'.Sublist l → l'.filter (· ≠ b) = l' := by
          intro l' hsublist
          rw [List.filter_eq_self]
          intro c hc
          rw [decide_eq_true_eq]
          intro hcb
          subst hcb
          exact hnotMem (hsublist.subset hc)
        rw [List.filter_cons_of_neg (by simp), List.filter_cons_of_neg (by simp),
          hkept _ (List.take_sublist n l), hkept l (List.Sublist.refl l), List.take_take,
          Nat.min_self]
      · rw [List.filter_cons_of_pos (by simpa using hb),
          List.filter_cons_of_pos (by simpa using hb)]
        cases n with
        | zero => rfl
        | succ n => rw [List.take_succ_cons, List.take_succ_cons, ih hrest]

variable [BEq α] [LawfulBEq α]

theorem eraseDups_cons_filter (a : α) (l : List α) :
    (a :: l).eraseDups = a :: (l.filter (· ≠ a)).eraseDups := by
  rw [List.eraseDups_cons]
  congr 2
  apply List.filter_congr
  intro b _
  rw [Bool.eq_iff_iff]
  simp

theorem eraseDups_filter_ne (a : α) (l : List α) :
    (l.filter (· ≠ a)).eraseDups = l.eraseDups.filter (· ≠ a) := by
  induction hlength : l.length using Nat.strongRecOn generalizing l with
  | _ n ih =>
      cases l with
      | nil => rfl
      | cons b l =>
          have hrest : (l.filter (· ≠ b)).length < n := by
            have hle := List.length_filter_le (· ≠ b) l
            rw [List.length_cons] at hlength
            omega
          have hfilter := ih _ hrest (l.filter (· ≠ b)) rfl
          by_cases hb : b = a
          · subst hb
            rw [eraseDups_cons_filter, List.filter_cons_of_neg (by simp),
              List.filter_cons_of_neg (by simp), ← hfilter, List.filter_filter]
            simp
          · rw [eraseDups_cons_filter, List.filter_cons_of_pos (by simpa using hb),
              List.filter_cons_of_pos (by simpa using hb), eraseDups_cons_filter, ← hfilter,
              List.filter_comm]

theorem eraseDups_cons_eq (a : α) (l : List α) :
    (a :: l).eraseDups = a :: l.eraseDups.filter (· ≠ a) := by
  rw [eraseDups_cons_filter, eraseDups_filter_ne]

theorem nodup_eraseDups (l : List α) : l.eraseDups.Nodup := by
  induction l with
  | nil => exact List.nodup_nil
  | cons a l ih =>
      rw [eraseDups_cons_eq, List.nodup_cons]
      exact ⟨by simp, ih.filter _⟩

def latest (n : Nat) (asked : List α) : List α := asked.eraseDups.take n

theorem nodup_latest (n : Nat) (asked : List α) : (latest n asked).Nodup :=
  (nodup_eraseDups asked).sublist (List.take_sublist n _)

omit [DecidableEq α] [LawfulBEq α] in
theorem length_latest_le (n : Nat) (asked : List α) : (latest n asked).length ≤ n :=
  List.length_take_le n _

theorem latest_cons (n : Nat) (a : α) (asked : List α) :
    latest n (a :: asked) = (a :: (latest n asked).filter (· ≠ a)).take n := by
  cases n with
  | zero => rfl
  | succ n =>
      rw [latest, latest, eraseDups_cons_eq, List.take_succ_cons, List.take_succ_cons,
        take_filter_ne_take (nodup_eraseDups asked)]

theorem latest_cons_of_mem {n : Nat} {a : α} {asked : List α} (ha : a ∈ latest n asked) :
    latest n (a :: asked) = a :: (latest n asked).filter (· ≠ a) := by
  have hshorter : ((latest n asked).filter (· ≠ a)).length < (latest n asked).length := by
    rw [List.length_filter_lt_length_iff_exists]
    exact ⟨a, ha, by simp⟩
  rw [latest_cons, List.take_of_length_le]
  have hle := length_latest_le n asked
  rw [List.length_cons]
  omega

namespace Memo

variable {f : α → β}

theorem keys_promote_eq_latest {m : Memo f} {n : Nat} {asked : List α}
    (hm : m.keys = latest n asked) {a : α} (ha : a ∈ m.keys) :
    (m.promote a).keys = latest n (a :: asked) := by
  have hfront : m.keys.filter (· = a) = [a] := by
    have hcount : m.keys.count a = 1 := by
      rw [hm] at ha ⊢
      exact List.count_eq_one_of_mem (nodup_latest n asked) ha
    rw [List.filter_eq, hcount]
    rfl
  rw [keys_promote, hfront]
  rw [hm] at ha ⊢
  exact (latest_cons_of_mem ha).symm

theorem keys_put_eq_latest {m : Memo f} {n : Nat} {asked : List α}
    (hm : m.keys = latest n asked) (a : α) (b : β) (hb : b = f a) :
    (m.put n a b hb).keys = latest n (a :: asked) := by
  rw [keys_put, hm, latest_cons]

end Memo

/-- A table of at most `n` entries, known by what it promises of its entries, the latest first: an
argument that is looked up comes first, and so does one that is put in, for which the last entry is
dropped when there is no room. -/
structure Lru (α β : Type) [DecidableEq α] (n : Nat) where
  Table : Type
  entries : Table → List (α × β)
  empty : Table
  get : Table → α → Option β × Table
  put : Table → α → β → Table
  entries_empty : entries empty = []
  get_of_mem : ∀ table a b, (a, b) ∈ entries table →
    (get table a).1 = some b ∧
      entries (get table a).2 = (a, b) :: (entries table).filter fun entry => entry.1 ≠ a
  get_of_notMem : ∀ table a, a ∉ (entries table).map Prod.fst →
    (get table a).1 = none ∧ entries (get table a).2 = entries table
  entries_put : ∀ table a b, entries (put table a b) =
    ((a, b) :: (entries table).filter fun entry => entry.1 ≠ a).take n

namespace Lru

variable {n : Nat} (lru : Lru α β n) {table : lru.Table} {f : α → β} {asked : List α}

theorem get_of_mem_latest
    (htable : lru.entries table = (latest n asked).map fun a => (a, f a)) {a : α}
    (ha : a ∈ latest n asked) :
    (lru.get table a).1 = some (f a) ∧
      lru.entries (lru.get table a).2 = (latest n (a :: asked)).map fun a => (a, f a) := by
  have hmem : (a, f a) ∈ lru.entries table := by
    rw [htable]
    exact List.mem_map_of_mem ha
  obtain ⟨hget, hentries⟩ := lru.get_of_mem table a (f a) hmem
  refine ⟨hget, ?_⟩
  rw [hentries, htable, latest_cons_of_mem ha, List.map_cons, List.filter_map]
  rfl

theorem get_of_notMem_latest
    (htable : lru.entries table = (latest n asked).map fun a => (a, f a)) {a : α}
    (ha : a ∉ latest n asked) :
    (lru.get table a).1 = none ∧
      lru.entries (lru.put (lru.get table a).2 a (f a)) =
        (latest n (a :: asked)).map fun a => (a, f a) := by
  have hkeys : (lru.entries table).map Prod.fst = latest n asked := by
    rw [htable, List.map_map]
    exact List.map_id _
  obtain ⟨hget, hentries⟩ := lru.get_of_notMem table a (by rwa [hkeys])
  refine ⟨hget, ?_⟩
  rw [lru.entries_put, hentries, htable, latest_cons, List.map_take, List.map_cons,
    List.filter_map]
  rfl

def listed (α β : Type) [DecidableEq α] (n : Nat) : Lru α β n where
  Table := { entries : List (α × β) // (entries.map Prod.fst).Nodup }
  entries := Subtype.val
  empty := ⟨[], List.nodup_nil⟩
  get := fun table a =>
    match table.1.find? fun entry => entry.1 = a with
    | some entry => (some entry.2, ⟨(a, entry.2) :: table.1.filter fun entry => entry.1 ≠ a,
        nodup_cons_filter table.2 a entry.2⟩)
    | none => (none, table)
  put := fun table a b =>
    ⟨((a, b) :: table.1.filter fun entry => entry.1 ≠ a).take n,
      (nodup_cons_filter table.2 a b).sublist ((List.take_sublist n _).map Prod.fst)⟩
  entries_empty := rfl
  get_of_mem := by
    intro table a b hmem
    cases hfind : table.1.find? fun entry => entry.1 = a with
    | none =>
        have habsent := List.find?_eq_none.mp hfind (a, b) hmem
        simp at habsent
    | some entry =>
        have hkey : entry.1 = a := by simpa using List.find?_some hfind
        have hentry : entry = (a, b) :=
          List.inj_on_of_nodup_map table.2 (List.mem_of_find?_eq_some hfind) hmem hkey
        rw [hentry]
        exact ⟨rfl, rfl⟩
  get_of_notMem := by
    intro table a hnotMem
    cases hfind : table.1.find? fun entry => entry.1 = a with
    | none => exact ⟨rfl, rfl⟩
    | some entry =>
        have hkey : entry.1 = a := by simpa using List.find?_some hfind
        have hmem := List.mem_map_of_mem (f := Prod.fst) (List.mem_of_find?_eq_some hfind)
        rw [hkey] at hmem
        contradiction
  entries_put := fun _ _ _ => rfl

end Lru

end ColorCalls
