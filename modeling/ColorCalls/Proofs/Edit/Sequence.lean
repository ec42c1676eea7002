import ColorCalls.Proofs.Edit.Layout

/-! Edits one after the other, each planned on a scan of the text that the one before it left. On a
layout an edit changes one piece (`edit?_of_reads`), so a piece of the final text knows only of the
edits of its own call (`getElem?_pieces_foldl_edited`), and edits of different calls do not depend
on their order. -/

namespace ColorCalls

/-- An edit of one color call of a text; the calls are counted from the left. -/
structure CallEdit where
  index : Nat
  picked : PickedColor
  policy : AlphaPolicy

structure Buffer where
  locator : Locator
  text : Text

namespace Buffer

def edit? (buffer : Buffer) (e : CallEdit) : Option Buffer :=
  let scan := buffer.locator.findAll buffer.text
  match scan.found[e.index]? with
  | none => none
  | some call =>
      let plan := planEdit scan.locator.codec call e.picked e.policy
      (plan.apply buffer.text).toOption.map fun text => ⟨scan.locator, text⟩

def edits? (buffer : Buffer) (es : List CallEdit) : Option Buffer := es.foldlM edit? buffer

end Buffer

def Color.edited (color : Color) (picked : PickedColor) (policy : AlphaPolicy) : Color :=
  (color.withChannels picked.channels).withEncoding
    (policy.resolve color.encoding picked.channels.alpha)

namespace Layout

def Piece.edited (codec : Codec) (p : Piece) (e : CallEdit) : Piece :=
  let color := p.color.edited e.picked e.policy
  ⟨p.gap, codec.format color, color.written⟩

def edited (codec : Codec) (l : Layout) (e : CallEdit) : Layout :=
  { l with pieces := l.pieces.modify e.index fun p => p.edited codec e }

theorem edited_split (codec : Codec) {before : List Piece} {e : CallEdit}
    (hbefore : before.length = e.index) (p : Piece) (after : List Piece) (tail : Text) :
    edited codec ⟨before ++ p :: after, tail⟩ e =
      ⟨before ++ p.edited codec e :: after, tail⟩ := by
  have hmodify := List.modifyTailIdx_add (List.modifyHead fun p => Piece.edited codec p e) 0
    before (p :: after)
  rw [edited, ← hbefore]
  exact congrArg (mk · tail) hmodify

theorem length_pieces_edited (codec : Codec) (l : Layout) (e : CallEdit) :
    (l.edited codec e).pieces.length = l.pieces.length :=
  List.length_modify ..

theorem tail_foldl_edited (codec : Codec) (l : Layout) (es : List CallEdit) :
    (es.foldl (edited codec) l).tail = l.tail := by
  induction es generalizing l with
  | nil => rfl
  | cons e es ih => exact ih (l.edited codec e)

/-- A piece knows only of the edits of its own call. -/
theorem getElem?_pieces_foldl_edited (codec : Codec) (l : Layout) (es : List CallEdit) (i : Nat) :
    (es.foldl (edited codec) l).pieces[i]? =
      l.pieces[i]?.map fun p => (es.filter (·.index = i)).foldl (Piece.edited codec) p := by
  induction es generalizing l with
  | nil => exact Option.map_id'.symm
  | cons e es ih =>
      rw [List.foldl_cons, ih (l.edited codec e), edited, List.getElem?_modify, Option.map_eq_map,
        Option.map_map]
      by_cases hi : e.index = i
      · rw [List.filter_cons_of_pos (by simpa using hi)]
        simp only [Function.comp_def, hi, if_true]
        rfl
      · rw [List.filter_cons_of_neg (by simpa using hi)]
        simp only [Function.comp_def, hi, if_false]

theorem foldl_edited_eq_of_filter_eq (codec : Codec) (l : Layout) {es others : List CallEdit}
    (hsame : ∀ i, es.filter (·.index = i) = others.filter (·.index = i)) :
    es.foldl (edited codec) l = others.foldl (edited codec) l := by
  apply Layout.ext
  · apply List.ext_getElem?
    intro i
    rw [getElem?_pieces_foldl_edited, getElem?_pieces_foldl_edited, hsame]
  · rw [tail_foldl_edited, tail_foldl_edited]

end Layout

theorem Locator.Alike.format {locator locator' : Locator} (h : locator.Alike locator') :
    locator'.codec.format = locator.codec.format := by
  funext color
  rw [Codec.format, Codec.format, h.callee]

theorem Locator.Alike.edited {locator locator' : Locator} (h : locator.Alike locator') :
    Layout.edited locator'.codec = Layout.edited locator.codec := by
  have hpiece : Layout.Piece.edited locator'.codec = Layout.Piece.edited locator.codec := by
    funext p e
    rw [Layout.Piece.edited, Layout.Piece.edited, h.format]
  funext l e
  rw [Layout.edited, Layout.edited, hpiece]

namespace Buffer

variable {locator : Locator} {l : Layout}

theorem edit?_eq_none (hl : locator.Reads l) {e : CallEdit} (he : l.pieces.length ≤ e.index) :
    edit? ⟨locator, l.text⟩ e = none := by
  have hcall : (locator.findAll l.text).found[e.index]? = none := by
    rw [List.getElem?_eq_none_iff, hl.length_found]
    exact he
  simp only [edit?, hcall]

theorem edit?_eq_some {buffer : Buffer} {e : CallEdit} {call : ColorCall} {t' : Text}
    (hcall : (buffer.locator.findAll buffer.text).found[e.index]? = some call)
    (happly : (planEdit (buffer.locator.findAll buffer.text).locator.codec call e.picked
      e.policy).apply buffer.text = .ok t') :
    buffer.edit? e = some ⟨(buffer.locator.findAll buffer.text).locator, t'⟩ := by
  simp only [edit?, hcall, happly]
  rfl

theorem edit?_of_reads (hl : locator.Reads l) {e : CallEdit} (he : e.index < l.pieces.length) :
    ∃ locator', locator.Alike locator' ∧
      edit? ⟨locator, l.text⟩ e = some ⟨locator', (l.edited locator.codec e).text⟩ ∧
      locator'.Reads (l.edited locator.codec e) := by
  obtain ⟨pieces, tail⟩ := l
  obtain ⟨before, after, hpieces, (hbefore : before.length = e.index)⟩ :=
    Locator.exists_append_get_cons pieces ⟨e.index, he⟩
  generalize pieces.get ⟨e.index, he⟩ = p at hpieces
  subst hpieces
  have halike := Locator.alike_findAll locator (Layout.text ⟨before ++ p :: after, tail⟩)
  have hcall := Layout.getElem?_calls locator.unit before p after tail
  rw [← hl, hbefore] at hcall
  rw [Layout.edited_split locator.codec hbefore]
  refine ⟨_, halike, edit?_eq_some hcall ?_, halike.reads (hl.rewrite _)⟩
  rw [Replacement.apply_of_slice? (Layout.slice?_call locator.unit before p after tail),
    Layout.text_split before (p.edited locator.codec e) after tail]
  simp only [planEdit, halike.format]
  rfl

theorem edits?_of_reads (hl : locator.Reads l) {es : List CallEdit}
    (hes : ∀ e ∈ es, e.index < l.pieces.length) :
    ∃ locator', locator.Alike locator' ∧
      edits? ⟨locator, l.text⟩ es =
        some ⟨locator', (es.foldl (Layout.edited locator.codec) l).text⟩ ∧
      locator'.Reads (es.foldl (Layout.edited locator.codec) l) := by
  induction es generalizing locator l with
  | nil => exact ⟨locator, ⟨rfl, rfl, rfl⟩, rfl, hl⟩
  | cons e es ih =>
      obtain ⟨locator₁, halike₁, hedit, hl₁⟩ := edit?_of_reads hl (hes e List.mem_cons_self)
      have hrest : ∀ e' ∈ es, e'.index < (l.edited locator.codec e).pieces.length := by
        intro e' he'
        rw [Layout.length_pieces_edited]
        exact hes e' (List.mem_cons_of_mem e he')
      obtain ⟨locator', halike, hedits, hl'⟩ := ih hl₁ hrest
      rw [halike₁.edited] at hedits hl'
      refine ⟨locator', halike₁.trans halike, ?_, hl'⟩
      rw [edits?, List.foldlM_cons, hedit]
      exact hedits

theorem edits?_eq_none (hl : locator.Reads l) {es : List CallEdit}
    (hes : ∃ e ∈ es, l.pieces.length ≤ e.index) : edits? ⟨locator, l.text⟩ es = none := by
  induction es generalizing locator l with
  | nil => simp at hes
  | cons e es ih =>
      rw [edits?, List.foldlM_cons]
      rcases Nat.lt_or_ge e.index l.pieces.length with hlt | hge
      · obtain ⟨locator₁, halike₁, hedit, hl₁⟩ := edit?_of_reads hl hlt
        rw [hedit]
        apply ih hl₁
        obtain ⟨e', he', hle⟩ := hes
        rw [Layout.length_pieces_edited]
        rcases List.mem_cons.mp he' with rfl | he'
        · omega
        · exact ⟨e', he', hle⟩
      · rw [edit?_eq_none hl hge]
        rfl

/-- Whatever the order in which edits of different calls are made, they can be made, and the text is
the same in the end. -/
theorem edits_of_different_calls_commute (locator : Locator) (t : Text) {es others : List CallEdit}
    (hsame : ∀ i, es.filter (·.index = i) = others.filter (·.index = i)) :
    ((∀ e ∈ es, e.index < (locator.findAll t).found.length) →
      ∃ final final', edits? ⟨locator, t⟩ es = some final ∧
        edits? ⟨locator, t⟩ others = some final' ∧ final.text = final'.text) ∧
    ((∃ e ∈ es, (locator.findAll t).found.length ≤ e.index) →
      edits? ⟨locator, t⟩ es = none ∧ edits? ⟨locator, t⟩ others = none) := by
  obtain ⟨l, rfl, hl⟩ := Locator.exists_reads locator t
  have hmem : ∀ e, e ∈ es ↔ e ∈ others := by
    intro e
    have hfilter : e ∈ es.filter (·.index = e.index) ↔ e ∈ others.filter (·.index = e.index) := by
      rw [hsame]
    simpa using hfilter
  rw [hl.length_found]
  constructor
  · intro hes
    obtain ⟨first, _, hfirst, _⟩ := edits?_of_reads hl hes
    obtain ⟨second, _, hsecond, _⟩ := edits?_of_reads hl fun e he => hes e ((hmem e).mpr he)
    refine ⟨_, _, hfirst, hsecond, ?_⟩
    rw [Layout.foldl_edited_eq_of_filter_eq locator.codec l hsame]
  · rintro ⟨e, he, hle⟩
    exact ⟨edits?_eq_none hl ⟨e, he, hle⟩, edits?_eq_none hl ⟨e, (hmem e).mp he, hle⟩⟩

theorem edits_of_two_calls_commute :
    let t : Text := "QColor(1,2,3)QColor('red')"
    let first : CallEdit := ⟨0, .ofChannels ⟨⟨9, 8, 7⟩, 6⟩, .promote⟩
    let second : CallEdit := ⟨1, .ofChannels ⟨⟨5, 4, 3⟩, 255⟩, .preserve⟩
    ∃ final final', edits? ⟨{}, t⟩ [first, second] = some final ∧
      edits? ⟨{}, t⟩ [second, first] = some final' ∧ final.text = final'.text := by
  intro t first second
  have hsame : ∀ i, [first, second].filter (·.index = i) = [second, first].filter (·.index = i) := by
    intro i
    match i with
    | 0 => rfl
    | 1 => rfl
    | i + 2 => rfl
  have hlength : (({} : Locator).findAll t).found.length = 2 := by decide +kernel
  apply (edits_of_different_calls_commute {} t hsame).1
  rw [hlength]
  simp [first, second]

end Buffer

end ColorCalls
