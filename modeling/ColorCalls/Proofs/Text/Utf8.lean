import ColorCalls.Proofs.Checked.Cut
import ColorCalls.Proofs.FileStore

/-! The bytes of a text in UTF-8. A range of bytes is itself a text exactly if it begins and ends at
ends of characters; so where the bytes of a text that is not empty are found, the text itself stands
(`hasBytes_iff`). -/

namespace ColorCalls.Text

variable {t inside : Text} {start stop : Nat}

theorem encodeText_append (s t : Text) : encodeText (s ++ t) = encodeText s ++ encodeText t := by
  simp [encodeText]

theorem size_encodeText (t : Text) : (encodeText t).size = bytes t := by
  induction t with
  | nil => rfl
  | cons c t ih =>
      have hone : (encodeText [c]).size = c.utf8Size := by
        simp [encodeText, List.utf8Encode_singleton]
      rw [← List.singleton_append, encodeText_append, ByteArray.size_append, hone, ih,
        List.singleton_append, bytes_cons]

theorem endsAt_iff_isValid {n : Nat} :
    t.EndsAt n ↔ String.Pos.Raw.IsValid (String.ofList t) ⟨n⟩ := by
  rw [String.Pos.Raw.isValid_iff_exists_append]
  constructor
  · rintro ⟨before, after, rfl, rfl⟩
    refine ⟨String.ofList before, String.ofList after, String.ofList_append, ?_⟩
    exact congrArg String.Pos.Raw.mk (size_encodeText before).symm
  · rintro ⟨before, after, ht, hn⟩
    refine ⟨before.toList, after.toList, ?_, ?_⟩
    · rw [← String.toList_append, ← ht, String.toList_ofList]
    · have hsize := size_encodeText before.toList
      rw [encodeText, String.ofList_toList] at hsize
      exact hsize.symm.trans (congrArg String.Pos.Raw.byteIdx hn).symm

/-- From `start` to `stop` the text has the bytes of `inside`. -/
structure HasBytes (t : Text) (start stop : Nat) (inside : Text) : Prop where
  ordered : start ≤ stop
  within : stop ≤ bytes t
  content : (encodeText t).extract start stop = encodeText inside

theorem HasBytes.endsAt (h : t.HasBytes start stop inside) (hinside : inside ≠ []) :
    t.EndsAt start ∧ t.EndsAt stop := by
  have hvalid : ((String.ofList t).toByteArray.extract start stop).IsValidUTF8 := by
    change ((encodeText t).extract start stop).IsValidUTF8
    rw [h.content]
    exact (String.ofList inside).isValidUTF8
  have hwithin : stop ≤ (String.ofList t).utf8ByteSize := by
    change stop ≤ (encodeText t).size
    rw [size_encodeText]
    exact h.within
  have hends := (String.Pos.Raw.isValidUTF8_extract_iff ⟨start⟩ ⟨stop⟩ h.ordered hwithin).mp hvalid
  rcases hends with hsame | ⟨hstart, hstop⟩
  · cases hsame
    have hempty := h.content
    rw [ByteArray.extract_same] at hempty
    have hnil : inside = [] := encodeText_injective hempty.symm
    exact absurd hnil hinside
  · exact ⟨endsAt_iff_isValid.mpr hstart, endsAt_iff_isValid.mpr hstop⟩

theorem extract_encodeText {before after : Text}
    (h : slice? start stop t = some (before, inside, after)) :
    (encodeText t).extract start stop = encodeText inside := by
  obtain ⟨rfl, rfl, rfl⟩ := slice?_eq_some_iff.mp h
  rw [List.append_assoc, encodeText_append, encodeText_append]
  calc (encodeText before ++ (encodeText inside ++ encodeText after)).extract
        (bytes before + 0) (bytes before + bytes inside)
      = (encodeText inside ++ encodeText after).extract 0 (bytes inside) :=
        ByteArray.extract_append_size_add' (size_encodeText before).symm
    _ = encodeText inside := ByteArray.extract_append_eq_left (size_encodeText inside).symm

theorem hasBytes_of_slice? {before after : Text}
    (h : slice? start stop t = some (before, inside, after)) : t.HasBytes start stop inside where
  ordered := (exists_slice?_iff.mp ⟨before, inside, after, h⟩).1
  within := (exists_slice?_iff.mp ⟨before, inside, after, h⟩).2.2.le_bytes
  content := extract_encodeText h

theorem hasBytes_iff (hinside : inside ≠ []) :
    t.HasBytes start stop inside ↔
      ∃ before after, slice? start stop t = some (before, inside, after) := by
  constructor
  · intro h
    obtain ⟨before, found, after, hslice⟩ := exists_slice?_iff.mpr ⟨h.ordered, h.endsAt hinside⟩
    have hfound : found = inside :=
      encodeText_injective ((extract_encodeText hslice).symm.trans h.content)
    rw [hfound] at hslice
    exact ⟨before, after, hslice⟩
  · rintro ⟨before, after, hslice⟩
    exact hasBytes_of_slice? hslice

end ColorCalls.Text
