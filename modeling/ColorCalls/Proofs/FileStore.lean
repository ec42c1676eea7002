import ColorCalls.FileStore

namespace ColorCalls

theorem decodeText?_eq_some_iff {bytes : ByteArray} {t : Text} :
    decodeText? bytes = some t ↔ bytes = encodeText t := by
  rw [decodeText?, String.fromUTF8?, Option.map_eq_some_iff, encodeText]
  constructor
  · rintro ⟨s, hs, rfl⟩
    split at hs
    · cases hs
      rw [String.ofList_toList]
      rfl
    · contradiction
  · rintro rfl
    refine ⟨String.ofList t, ?_, String.toList_ofList⟩
    exact dif_pos (String.ofList t).isValidUTF8

theorem encodeText_injective : Function.Injective encodeText := by
  intro s t h
  have hs := decodeText?_eq_some_iff.mpr h
  rw [decodeText?_eq_some_iff.mpr rfl] at hs
  exact Option.some.inj hs

theorem readText_eq_ok_iff {bytes : ByteArray} {t : Text} :
    readText bytes = .ok t ↔ bytes = encodeText t := by
  rw [← decodeText?_eq_some_iff, readText]
  cases decodeText? bytes with
  | none => simp
  | some t' => simp

namespace FileStore

variable {store : FileStore} {path t : Text}

theorem read_eq_ok_iff :
    store.read path = .ok t ↔
      ∃ name, store.resolve path = .ok name ∧ store.get? name = some (encodeText t) := by
  rw [read]
  cases store.resolve path with
  | error e => simp [bind, Except.bind]
  | ok name =>
      simp only [bind, Except.bind]
      cases hfile : store.get? name with
      | none => simp [hfile, throw, throwThe, MonadExceptOf.throw]
      | some content => simp [hfile, readText_eq_ok_iff]

theorem get?_cons (file : Text × ByteArray) (files : List (Text × ByteArray))
    (resolve : Text → Except FileError Text)
    (writeFault : Text → ByteArray → Option WriteFault) (name : Text) :
    get? ⟨file :: files, resolve, writeFault⟩ name =
      if file.1 = name then some file.2 else get? ⟨files, resolve, writeFault⟩ name := by
  by_cases hfile : file.1 = name
  · simp [get?, hfile]
  · simp [get?, hfile]

theorem get?_replace_self (store : FileStore) (name : Text) (content : ByteArray) :
    (store.replace name content).get? name = (store.get? name).map fun _ => content := by
  obtain ⟨files, resolve, writeFault⟩ := store
  induction files with
  | nil => rfl
  | cons file files ih =>
      change get? ⟨(if file.1 = name then (name, content) else file) :: _, resolve, _⟩ name = _
      rw [get?_cons, get?_cons]
      by_cases hfile : file.1 = name
      · rw [if_pos hfile, if_pos rfl, if_pos hfile]
        rfl
      · rw [if_neg hfile, if_neg hfile, if_neg hfile]
        exact ih

theorem get?_replace_of_ne (store : FileStore) {name other : Text} (hother : other ≠ name)
    (content : ByteArray) : (store.replace name content).get? other = store.get? other := by
  obtain ⟨files, resolve, writeFault⟩ := store
  induction files with
  | nil => rfl
  | cons file files ih =>
      change get? ⟨(if file.1 = name then (name, content) else file) :: _, resolve, _⟩ other = _
      rw [get?_cons, get?_cons]
      by_cases hfile : file.1 = name
      · rw [if_pos hfile, if_neg hother.symm, hfile, if_neg hother.symm]
        exact ih
      · rw [if_neg hfile]
        exact congrArg _ ih

/-- The stores hold the same files, and only the content of one may differ. -/
structure SameBut (store store' : FileStore) (name : Text) : Prop where
  resolve : store'.resolve = store.resolve
  names : store'.files.map Prod.fst = store.files.map Prod.fst
  content : ∀ other, other ≠ name → store'.get? other = store.get? other

theorem sameBut_replace (store : FileStore) (name : Text) (content : ByteArray) :
    store.SameBut (store.replace name content) name where
  resolve := rfl
  names := by
    rw [replace, List.map_map]
    apply List.map_congr_left
    intro file _
    rw [Function.comp_apply]
    split
    · rename_i hname
      exact hname.symm
    · rfl
  content _ hother := get?_replace_of_ne store hother content

def Writable (store : FileStore) : Prop :=
  ∀ name content, store.writeFault name content = none

theorem sameBut_write {name : Text} (hname : store.resolve path = .ok name) (t : Text) :
    store.SameBut (store.write path t).2 name := by
  rw [write, hname]
  dsimp only
  cases store.writeFault name (encodeText t) with
  | none => exact sameBut_replace store name _
  | some fault => exact sameBut_replace store name _

theorem write_of_writable (hwritable : store.Writable) {name : Text}
    (hname : store.resolve path = .ok name) (t : Text) :
    store.write path t = (.ok (), store.replace name (encodeText t)) := by
  rw [write, hname]
  dsimp only
  rw [hwritable]

theorem write_of_read (hwritable : store.Writable) {old : Text}
    (hread : store.read path = .ok old) (new : Text) :
    ∃ name, store.resolve path = .ok name ∧ store.get? name = some (encodeText old) ∧
      (store.write path new).1 = .ok () ∧
      (store.write path new).2.get? name = some (encodeText new) ∧
      store.SameBut (store.write path new).2 name := by
  obtain ⟨name, hname, hold⟩ := read_eq_ok_iff.mp hread
  have hwrite := write_of_writable hwritable hname new
  refine ⟨name, hname, hold, ?_, ?_, sameBut_write hname new⟩
  · rw [hwrite]
  · rw [hwrite, get?_replace_self, hold]
    rfl

end FileStore

end ColorCalls
