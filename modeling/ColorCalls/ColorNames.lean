import ColorCalls.Color

/-! Tables of color names. A name is looked up exactly as it is written, letter case included. -/

namespace ColorCalls

structure ColorNames where
  entries : List (Text × Rgb)
  nodup : (entries.map Prod.fst).Nodup

namespace ColorNames

def empty : ColorNames := ⟨[], List.nodup_nil⟩

def get? (names : ColorNames) (name : Text) : Option Rgb :=
  (names.entries.find? fun entry => entry.1 = name).map Prod.snd

def contains (names : ColorNames) (name : Text) : Bool := (names.get? name).isSome

def size (names : ColorNames) : Nat := names.entries.length

/-- Adds a name, in place of its former color if it had one. -/
def insert (names : ColorNames) (name : Text) (color : Rgb) : ColorNames where
  entries := (name, color) :: names.entries.filter fun entry => entry.1 ≠ name
  nodup := by
    rw [List.map_cons, List.nodup_cons]
    constructor
    · simp
    · exact List.Nodup.sublist (List.filter_sublist.map Prod.fst) names.nodup

def ofList (entries : List (Text × Rgb)) : ColorNames :=
  entries.foldl (fun names (name, color) => names.insert name color) empty

theorem get?_insert (names : ColorNames) (name other : Text) (color : Rgb) :
    (names.insert name color).get? other =
      if name = other then some color else names.get? other := by
  by_cases h : name = other
  · simp [get?, insert, h]
  · simp only [get?, insert, List.find?_cons, h, decide_false, if_false]
    congr 1
    rw [List.find?_filter]
    congr 1
    funext entry
    by_cases he : entry.1 = other
    · simp [he, Ne.symm h]
    · simp [he]

def sameAs (a b : ColorNames) : Bool :=
  a.size == b.size && a.entries.all fun (name, color) => b.get? name = some color

def standardEntries : List (Text × Rgb) :=
  [("black", ⟨0, 0, 0⟩), ("white", ⟨255, 255, 255⟩), ("red", ⟨255, 0, 0⟩),
    ("green", ⟨0, 255, 0⟩), ("blue", ⟨0, 0, 255⟩), ("yellow", ⟨255, 255, 0⟩),
    ("cyan", ⟨0, 255, 255⟩), ("magenta", ⟨255, 0, 255⟩), ("gray", ⟨128, 128, 128⟩),
    ("darkGray", ⟨64, 64, 64⟩), ("lightGray", ⟨192, 192, 192⟩)]

def standard : ColorNames := ofList standardEntries

end ColorNames

end ColorCalls
