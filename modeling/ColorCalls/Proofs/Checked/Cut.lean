import ColorCalls.Proofs.Position

/-! Cuts and differences that can fail. A cut by byte offsets fails unless it takes whole
characters, and a difference fails below zero. The end of a character that is nearest to an offset
from the left is found by steps back (`snap?_eq`). -/

namespace ColorCalls

namespace Text

theorem takeBytes_isPrefix (n : Nat) (t : Text) : takeBytes n t <+: t := by
  induction t generalizing n with
  | nil => exact List.prefix_refl _
  | cons c r ih =>
      rw [takeBytes]
      split
      · exact List.cons_prefix_cons.mpr ⟨rfl, ih _⟩
      · exact List.nil_prefix

theorem takeBytes_of_bytes_le {n : Nat} {t : Text} (h : bytes t ≤ n) : takeBytes n t = t := by
  induction t generalizing n with
  | nil => rfl
  | cons c r ih =>
      rw [bytes_cons] at h
      rw [takeBytes, if_pos (by omega), ih (by omega)]

theorem takeBytes_min (n : Nat) (t : Text) : takeBytes (min n (bytes t)) t = takeBytes n t := by
  rcases Nat.le_total n (bytes t) with hle | hle
  · rw [Nat.min_eq_left hle]
  · rw [Nat.min_eq_right hle, takeBytes_of_bytes_le hle, takeBytes_of_bytes_le (Nat.le_refl _)]

theorem slice?_eq_some_iff {start stop : Nat} {t before inside after : Text} :
    slice? start stop t = some (before, inside, after) ↔
      t = before ++ inside ++ after ∧ bytes before = start ∧
        bytes before + bytes inside = stop := by
  constructor
  · intro h
    rw [slice?] at h
    split at h
    · contradiction
    · obtain ⟨⟨front, rest⟩, hfront, h⟩ := Option.bind_eq_some_iff.mp h
      obtain ⟨⟨middle, back⟩, hmiddle, h⟩ := Option.bind_eq_some_iff.mp h
      cases h
      obtain ⟨rfl, hstart⟩ := splitBytes?_eq_some_iff.mp hfront
      obtain ⟨rfl, hsize⟩ := splitBytes?_eq_some_iff.mp hmiddle
      exact ⟨(List.append_assoc ..).symm, hstart, by omega⟩
  · rintro ⟨rfl, rfl, rfl⟩
    rw [← bytes_append]
    exact slice?_append before inside after

theorem isSome_splitBytes?_iff {n : Nat} {t : Text} :
    (splitBytes? n t).isSome ↔ t.EndsAt n := by
  rw [Option.isSome_iff_exists]
  constructor
  · rintro ⟨⟨before, after⟩, h⟩
    exact ⟨before, after, splitBytes?_eq_some_iff.mp h⟩
  · rintro ⟨before, after, h⟩
    exact ⟨(before, after), splitBytes?_eq_some_iff.mpr h⟩

instance (t : Text) (n : Nat) : Decidable (t.EndsAt n) :=
  decidable_of_iff _ isSome_splitBytes?_iff

theorem exists_slice?_iff {start stop : Nat} {t : Text} :
    (∃ before inside after, slice? start stop t = some (before, inside, after)) ↔
      start ≤ stop ∧ t.EndsAt start ∧ t.EndsAt stop := by
  constructor
  · rintro ⟨before, inside, after, hslice⟩
    obtain ⟨rfl, rfl, rfl⟩ := slice?_eq_some_iff.mp hslice
    refine ⟨Nat.le_add_right _ _, ⟨before, inside ++ after, List.append_assoc .., rfl⟩, ?_⟩
    exact ⟨before ++ inside, after, rfl, bytes_append before inside⟩
  · rintro ⟨hle, ⟨before, rest, rfl, rfl⟩, front, after, ht, rfl⟩
    rcases List.append_eq_append_iff.mp ht with ⟨inside, rfl, rfl⟩ | ⟨back, rfl, rfl⟩
    · exact ⟨before, inside, after, slice?_eq_some_iff.mpr
        ⟨(List.append_assoc ..).symm, rfl, (bytes_append before inside).symm⟩⟩
    · have hback : bytes back = 0 := by
        rw [bytes_append] at hle
        omega
      refine ⟨front ++ back, [], rest, slice?_eq_some_iff.mpr ⟨by simp, rfl, ?_⟩⟩
      rw [bytes_append, hback]
      rfl

theorem slice?_eq_none_iff {start stop : Nat} {t : Text} (hordered : start ≤ stop) :
    slice? start stop t = none ↔ ¬ (t.EndsAt start ∧ t.EndsAt stop) := by
  rw [← not_iff_not, not_not]
  constructor
  · intro h
    obtain ⟨⟨before, inside, after⟩, hslice⟩ := Option.ne_none_iff_exists'.mp h
    exact (exists_slice?_iff.mp ⟨before, inside, after, hslice⟩).2
  · intro h
    obtain ⟨before, inside, after, hslice⟩ := exists_slice?_iff.mpr ⟨hordered, h⟩
    rw [hslice]
    exact Option.some_ne_none _

theorem EndsAt.le_bytes {n : Nat} {t : Text} (h : t.EndsAt n) : n ≤ bytes t := by
  obtain ⟨before, after, rfl, rfl⟩ := h
  rw [bytes_append]
  exact Nat.le_add_right _ _

theorem EndsAt.cons {n : Nat} {t : Text} (h : t.EndsAt n) (c : Char) :
    EndsAt (c :: t) (c.utf8Size + n) := by
  obtain ⟨before, after, rfl, rfl⟩ := h
  exact ⟨c :: before, after, rfl, rfl⟩

theorem bytes_takeBytes_le (n : Nat) (t : Text) : bytes (takeBytes n t) ≤ n := by
  induction t generalizing n with
  | nil => exact Nat.zero_le n
  | cons c t ih =>
      rw [takeBytes]
      split
      · have hrest := ih (n - c.utf8Size)
        rw [bytes_cons]
        omega
      · exact Nat.zero_le n

theorem endsAt_takeBytes (n : Nat) (t : Text) : t.EndsAt (bytes (takeBytes n t)) := by
  obtain ⟨rest, ht⟩ := takeBytes_isPrefix n t
  exact ⟨takeBytes n t, rest, ht.symm, rfl⟩

theorem EndsAt.le_bytes_takeBytes {m n : Nat} {t : Text} (h : t.EndsAt m) (hle : m ≤ n) :
    m ≤ bytes (takeBytes n t) := by
  obtain ⟨before, after, rfl, rfl⟩ := h
  induction before generalizing n with
  | nil => exact Nat.zero_le _
  | cons c before ih =>
      rw [bytes_cons] at hle
      rw [List.cons_append, takeBytes, if_pos (by omega), bytes_cons, bytes_cons]
      exact Nat.add_le_add_left (ih (by omega)) c.utf8Size

theorem takeBytes_succ_of_not_endsAt {n : Nat} {t : Text} (h : ¬ t.EndsAt (n + 1)) :
    takeBytes (n + 1) t = takeBytes n t := by
  induction t generalizing n with
  | nil => rfl
  | cons c r ih =>
      rw [takeBytes, takeBytes]
      by_cases hle : c.utf8Size ≤ n
      · have hsub : n + 1 - c.utf8Size = n - c.utf8Size + 1 := by omega
        rw [if_pos (by omega), if_pos hle, hsub, ih]
        intro hends
        have hcons := hends.cons c
        rw [show c.utf8Size + (n - c.utf8Size + 1) = n + 1 by omega] at hcons
        exact h hcons
      · have hne : c.utf8Size ≠ n + 1 := by
          intro heq
          exact h ⟨[c], r, rfl, by simpa using heq⟩
        rw [if_neg (by omega), if_neg hle]

end Text

namespace Checked

def minus? (m n : Nat) : Option Nat := if n ≤ m then some (m - n) else none

def cut? (start stop : Nat) (t : Text) : Option Text :=
  (Text.slice? start stop t).map fun parts => parts.2.1

/-- The last end of a character up to an offset, by steps back. -/
def snap? (t : Text) : Nat → Option Nat
  | 0 => if (Text.splitBytes? 0 t).isSome then some 0 else none
  | offset + 1 =>
      if (Text.splitBytes? (offset + 1) t).isSome then some (offset + 1) else snap? t offset

theorem minus?_add (m n : Nat) : minus? (m + n) n = some m := by
  rw [minus?, if_pos (Nat.le_add_left n m), Nat.add_sub_cancel]

theorem cut?_append {before inside after : Text} {start stop : Nat}
    (hstart : Text.bytes before = start) (hstop : start + Text.bytes inside = stop) :
    cut? start stop (before ++ inside ++ after) = some inside := by
  subst hstart hstop
  rw [cut?, ← Text.bytes_append, Text.slice?_append]
  rfl

theorem snap?_eq (t : Text) (offset : Nat) :
    snap? t offset = some (Text.bytes (Text.takeBytes offset t)) := by
  have hend {n : Nat} (h : t.EndsAt n) : Text.bytes (Text.takeBytes n t) = n := by
    obtain ⟨before, after, rfl, rfl⟩ := h
    rw [Text.takeBytes_append]
  induction offset with
  | zero =>
      have hzero : t.EndsAt 0 := ⟨[], t, rfl, rfl⟩
      rw [snap?, if_pos (Text.isSome_splitBytes?_iff.mpr hzero), hend hzero]
  | succ offset ih =>
      rw [snap?]
      by_cases h : t.EndsAt (offset + 1)
      · rw [if_pos (Text.isSome_splitBytes?_iff.mpr h), hend h]
      · rw [if_neg (Text.isSome_splitBytes?_iff.not.mpr h), ih,
          Text.takeBytes_succ_of_not_endsAt h]

end Checked

end ColorCalls
