import ColorCalls.Proofs.Invocation.Position

/-! Colors as arguments of `set`. An argument that begins with `-` is taken for an option before
anything asks whether it is a color. So a color is understood there exactly if it does not begin
with `-` (`set_understands_color_iff`), and one with a negative first channel does. A position never
begins so. -/

namespace ColorCalls.Invocation

def dashed : List Text :=
  ["-h", "--help", "--constructor", "--columns", "--no-swatch", "--promote-alpha", "--dry-run",
    "--log-level", "-"]

theorem kind_of_notMem_dashed {argument : Text} (h : argument ∉ dashed) :
    kind argument = if argument.head? = some '-' then .unknown else .positional := by
  simp only [dashed, List.mem_cons, List.not_mem_nil, or_false, not_or] at h
  simp only [kind, h, or_self, if_false]

theorem kind_of_head?_ne {argument : Text} (h : argument.head? ≠ some '-') :
    kind argument = .positional := by
  have hdashed : ∀ flag ∈ dashed, flag.head? = some '-' := by decide
  rw [kind_of_notMem_dashed (mt (hdashed argument) h), if_neg h]

theorem kind_of_color_eq_ok {argument : Text} {picked : PickedColor}
    (h : color argument = .ok picked) (hhead : argument.head? = some '-') :
    kind argument = .unknown := by
  have hdashed : ∀ flag ∈ dashed, (color flag).isOk = false := by decide +kernel
  have hnotMem : argument ∉ dashed := by
    intro hmem
    have hrejected := hdashed argument hmem
    rw [h] at hrejected
    contradiction
  rw [kind_of_notMem_dashed hnotMem, if_pos hhead]

theorem head?_ne_of_position_eq_ok {location : Text} {p : Position}
    (h : position location = .ok p) : location.head? ≠ some '-' := by
  intro hhead
  obtain ⟨line, column, rfl, -, hline, -⟩ := position_eq_ok_iff.mp h
  cases line with
  | nil => simp at hhead
  | cons c rest =>
      obtain rfl : c = '-' := Option.some.inj hhead
      have htrim : Text.trim ('-' :: rest) = '-' :: Text.trimEnd rest :=
        Text.trim_append_cons (by decide) [] rest
      apply hline.unsigned
      rw [htrim, List.head?_cons]

theorem color_of_trim_eq {value value' : Text} (h : Text.trim value' = Text.trim value) :
    color value' = color value := by
  rw [color, color, h]

theorem absorb_set {path location : Text} {p : Position} (hpath : path.head? ≠ some '-')
    (hlocation : position location = .ok p) (colorText : Text) :
    Draft.absorb {} ["set", path, location, colorText] =
      Draft.absorb { positionals := ["set", path, location] } [colorText] := by
  have hname : kind "set" = .positional := by decide
  have hlocationKind := kind_of_head?_ne (head?_ne_of_position_eq_ok hlocation)
  rw [Draft.absorb, hname]
  dsimp only
  rw [Draft.absorb, kind_of_head?_ne hpath]
  dsimp only
  rw [Draft.absorb, hlocationKind]
  rfl

theorem ofArguments_of_color {path location colorText : Text} {p : Position}
    {picked : PickedColor} (hpath : path.head? ≠ some '-') (hlocation : position location = .ok p)
    (hcolor : color colorText = .ok picked) (hhead : colorText.head? ≠ some '-') :
    ofArguments ["set", path, location, colorText] =
      .ok { command := some (.set ⟨path, p, picked, false⟩) } := by
  have hdraft : Draft.absorb {} ["set", path, location, colorText] =
      .ok { positionals := ["set", path, location, colorText] } := by
    rw [absorb_set hpath hlocation, Draft.absorb, kind_of_head?_ne hhead]
    rfl
  exact ofArguments_of_set hdraft rfl rfl hlocation hcolor

theorem ofArguments_of_dashed_color {path location colorText : Text} {p : Position}
    {picked : PickedColor} (hpath : path.head? ≠ some '-') (hlocation : position location = .ok p)
    (hcolor : color colorText = .ok picked) (hhead : colorText.head? = some '-') :
    ofArguments ["set", path, location, colorText] = .error (.unknownFlag colorText) := by
  rw [ofArguments, absorb_set hpath hlocation, Draft.absorb, kind_of_color_eq_ok hcolor hhead]
  rfl

/-- A path, a position and a color are understood as arguments of `set` unless the color begins with
`-`, which makes it an unknown option. Channels are taken over as they are, also those that no byte
has room for, and with white space in front every color is understood. -/
theorem set_understands_color_iff {path location colorText : Text} {p : Position}
    {picked : PickedColor} (hpath : path.head? ≠ some '-') (hlocation : position location = .ok p)
    (hcolor : color colorText = .ok picked) :
    (ofArguments ["set", path, location, colorText] =
        .ok { command := some (.set ⟨path, p, picked, false⟩) } ↔
      colorText.head? ≠ some '-') ∧
    (colorText.head? = some '-' →
      ofArguments ["set", path, location, colorText] = .error (.unknownFlag colorText)) ∧
    ofArguments ["set", path, location, ' ' :: colorText] =
      .ok { command := some (.set ⟨path, p, picked, false⟩) } := by
  have hdashed := ofArguments_of_dashed_color hpath hlocation hcolor
  refine ⟨⟨?_, ofArguments_of_color hpath hlocation hcolor⟩, hdashed, ?_⟩
  · intro h hhead
    rw [hdashed hhead] at h
    contradiction
  · have hspace : Text.AllBlank [' '] := List.forall_mem_singleton.mpr (by decide)
    have htrim := Text.trim_append_of_allBlank hspace Text.allBlank_nil colorText
    rw [List.append_nil, List.singleton_append] at htrim
    refine ofArguments_of_color hpath hlocation ?_ (by simp)
    rw [color_of_trim_eq htrim, hcolor]

theorem set_refuses_negative_red :
    ¬ ∀ (path location colorText : Text) (p : Position) (picked : PickedColor),
      path.head? ≠ some '-' → position location = .ok p → color colorText = .ok picked →
        ofArguments ["set", path, location, colorText] =
          .ok { command := some (.set ⟨path, p, picked, false⟩) } := by
  intro h
  have hset := h "ui.py" "1:1" "-5,0,0" ⟨0, 0⟩
    ⟨⟨0xc014000000000000⟩, ⟨0⟩, ⟨0⟩, ⟨0x406fe00000000000⟩⟩ (by decide) (by decide +kernel)
    (by decide +kernel)
  revert hset
  decide +kernel

theorem set_understands_negative_red_behind_space :
    ("ui.py" : Text).head? ≠ some '-' ∧ position "+3:12" = .ok ⟨2, 11⟩ ∧
      color "-5,300,0" =
        .ok ⟨⟨0xc014000000000000⟩, ⟨0x4072c00000000000⟩, ⟨0⟩, ⟨0x406fe00000000000⟩⟩ ∧
      ofArguments ["set", "ui.py", "+3:12", "-5,300,0"] = .error (.unknownFlag "-5,300,0") ∧
      ofArguments ["set", "ui.py", "+3:12", " -5,300,0"] =
        .ok { command := some (.set ⟨"ui.py", ⟨2, 11⟩,
          ⟨⟨0xc014000000000000⟩, ⟨0x4072c00000000000⟩, ⟨0⟩, ⟨0x406fe00000000000⟩⟩, false⟩) } := by
  have hpath : ("ui.py" : Text).head? ≠ some '-' := by decide
  have hlocation : position "+3:12" = .ok ⟨2, 11⟩ := by decide +kernel
  have hcolor : color "-5,300,0" =
      .ok ⟨⟨0xc014000000000000⟩, ⟨0x4072c00000000000⟩, ⟨0⟩, ⟨0x406fe00000000000⟩⟩ := by
    decide +kernel
  obtain ⟨-, hdashed, hspace⟩ := set_understands_color_iff hpath hlocation hcolor
  exact ⟨hpath, hlocation, hcolor, hdashed rfl, hspace⟩

end ColorCalls.Invocation
