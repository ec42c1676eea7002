/-! A text is its sequence of Unicode scalar values. Where a length or an offset is counted in
bytes, the bytes are those of its UTF-8 form. The cuts at the end of this module are pinned down
by `takeBytes_append` (a cut takes whole characters) and `splitBytes?_eq_some_iff` (a split exists
exactly at the end of a character). -/

namespace ColorCalls

abbrev Text := List Char

instance : Coe String Text := ⟨String.toList⟩

namespace Text

def bytes : Text → Nat
  | [] => 0
  | c :: r => c.utf8Size + bytes r

@[simp] theorem bytes_nil : bytes [] = 0 := rfl

@[simp] theorem bytes_cons (c : Char) (t : Text) : bytes (c :: t) = c.utf8Size + bytes t := rfl

@[simp] theorem bytes_append (s t : Text) : bytes (s ++ t) = bytes s + bytes t := by
  induction s with
  | nil => simp
  | cons c s ih => simp [ih, Nat.add_assoc]

def units16 (c : Char) : Nat := if c.toNat < 0x10000 then 1 else 2

/-- The text followed by blanks up to a width, in the given measure; a wider text stays as it is. -/
def padTo (measure : Text → Nat) (width : Nat) (t : Text) : Text :=
  t ++ List.replicate (width - measure t) ' '

/-- The longest beginning that takes at most `n` bytes. -/
def takeBytes : Nat → Text → Text
  | _, [] => []
  | n, c :: r => if c.utf8Size ≤ n then c :: takeBytes (n - c.utf8Size) r else []

/-- Both sides of the byte offset `n`, provided it is the end of a character. -/
def splitBytes? : Nat → Text → Option (Text × Text)
  | 0, t => some ([], t)
  | _ + 1, [] => none
  | n + 1, c :: r =>
      if c.utf8Size ≤ n + 1 then
        (splitBytes? (n + 1 - c.utf8Size) r).map fun (before, after) => (c :: before, after)
      else none

def slice? (start stop : Nat) (t : Text) : Option (Text × Text × Text) := do
  if stop < start then none
  let (before, rest) ← splitBytes? start t
  let (inside, after) ← splitBytes? (stop - start) rest
  return (before, inside, after)

theorem takeBytes_append (s t : Text) : takeBytes (bytes s) (s ++ t) = s := by
  induction s with
  | nil =>
      cases t with
      | nil => rfl
      | cons c r =>
          have := c.utf8Size_pos
          simp [takeBytes]
          omega
  | cons c s ih => simp [takeBytes, ih]

theorem splitBytes?_append (s t : Text) : splitBytes? (bytes s) (s ++ t) = some (s, t) := by
  induction s with
  | nil => cases t <;> rfl
  | cons c s ih =>
      have hc := c.utf8Size_pos
      obtain ⟨n, hn⟩ : ∃ n, c.utf8Size + bytes s = n + 1 := ⟨c.utf8Size + bytes s - 1, by omega⟩
      have hrest : n + 1 - c.utf8Size = bytes s := by omega
      simp only [bytes_cons, List.cons_append, hn, splitBytes?, hrest, ih]
      rw [if_pos (by omega)]
      rfl

theorem slice?_append (before inside after : Text) :
    slice? (bytes before) (bytes (before ++ inside)) (before ++ inside ++ after) =
      some (before, inside, after) := by
  have hsize : bytes (before ++ inside) - bytes before = bytes inside := by
    rw [bytes_append, Nat.add_sub_cancel_left]
  have hle : ¬ bytes (before ++ inside) < bytes before := by
    rw [bytes_append]
    omega
  rw [slice?, if_neg hle, List.append_assoc, splitBytes?_append, hsize]
  simp [splitBytes?_append]

theorem splitBytes?_eq_some_iff {n : Nat} {t before after : Text} :
    splitBytes? n t = some (before, after) ↔ t = before ++ after ∧ bytes before = n := by
  constructor
  · intro h
    induction t generalizing n before with
    | nil =>
        cases n with
        | zero =>
            simp only [splitBytes?, Option.some.injEq, Prod.mk.injEq] at h
            obtain ⟨rfl, rfl⟩ := h
            exact ⟨rfl, rfl⟩
        | succ n => simp [splitBytes?] at h
    | cons c r ih =>
        cases n with
        | zero =>
            simp only [splitBytes?, Option.some.injEq, Prod.mk.injEq] at h
            obtain ⟨rfl, rfl⟩ := h
            exact ⟨rfl, rfl⟩
        | succ n =>
            simp only [splitBytes?] at h
            split at h
            · obtain ⟨⟨b, a⟩, hba, heq⟩ := Option.map_eq_some_iff.mp h
              simp only [Prod.mk.injEq] at heq
              obtain ⟨rfl, rfl⟩ := heq
              obtain ⟨rfl, hb⟩ := ih hba
              refine ⟨rfl, ?_⟩
              rw [bytes_cons]
              omega
            · contradiction
  · rintro ⟨rfl, rfl⟩
    exact splitBytes?_append before after

theorem append_inj_of_bytes_eq {s s' t t' : Text} (h : s ++ t = s' ++ t')
    (hbytes : bytes s = bytes s') : s = s' ∧ t = t' := by
  have hsplit := splitBytes?_append s t
  rw [h, hbytes, splitBytes?_append] at hsplit
  cases hsplit
  exact ⟨rfl, rfl⟩

end Text

end ColorCalls
