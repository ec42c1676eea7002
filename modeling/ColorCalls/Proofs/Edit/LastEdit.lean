import ColorCalls.Proofs.Edit.Sequence

namespace ColorCalls

def CallEdit.each (index : Nat) (policy : AlphaPolicy) (picks : List PickedColor) :
    List CallEdit :=
  picks.map fun picked => ⟨index, picked, policy⟩

theorem CallEdit.filter_each (index : Nat) (policy : AlphaPolicy) (picks : List PickedColor) :
    (each index policy picks).filter (·.index = index) = each index policy picks := by
  rw [List.filter_eq_self]
  intro e he
  obtain ⟨picked, -, rfl⟩ := List.mem_map.mp he
  exact decide_eq_true rfl

theorem CallEdit.filter_each_of_ne {index i : Nat} (hi : index ≠ i) (policy : AlphaPolicy)
    (picks : List PickedColor) : (each index policy picks).filter (·.index = i) = [] := by
  rw [List.filter_eq_nil_iff]
  intro e he
  obtain ⟨picked, -, rfl⟩ := List.mem_map.mp he
  simpa using hi

theorem Encoding.written_of_ne_named {encoding : Encoding} (h : encoding ≠ .named) :
    encoding.written = encoding := by
  cases encoding with
  | triple => rfl
  | quad => rfl
  | hex => rfl
  | named => contradiction

theorem AlphaPolicy.alpha_resolve_promote (encoding : Encoding) (alpha : UInt8) :
    (if (AlphaPolicy.promote.resolve encoding alpha).carriesAlpha then alpha else 255) = alpha := by
  cases encoding with
  | triple =>
      by_cases halpha : alpha = 255
      · simp [AlphaPolicy.resolve, Encoding.carriesAlpha, halpha]
      · simp [AlphaPolicy.resolve, Encoding.carriesAlpha, halpha]
  | quad => rfl
  | hex => rfl
  | named =>
      by_cases halpha : alpha = 255
      · simp [AlphaPolicy.resolve, Encoding.carriesAlpha, halpha]
      · simp [AlphaPolicy.resolve, Encoding.carriesAlpha, halpha]

namespace Layout.Piece

variable {codec : Codec}

theorem edited_eq_of_encoding_eq {p q : Piece} (hgap : p.gap = q.gap)
    (hencoding : p.color.encoding = q.color.encoding) (e : CallEdit) :
    p.edited codec e = q.edited codec e := by
  obtain ⟨gap, text, ⟨channels, encoding, source⟩⟩ := p
  obtain ⟨gap', text', ⟨channels', encoding', source'⟩⟩ := q
  cases hgap
  cases hencoding
  rfl

theorem gap_foldl_edited (p : Piece) (es : List CallEdit) :
    (es.foldl (edited codec) p).gap = p.gap := by
  induction es generalizing p with
  | nil => rfl
  | cons e es ih => exact ih (p.edited codec e)

theorem encoding_foldl_preserve {p : Piece} (hp : p.color.encoding ≠ .named) (index : Nat)
    (picks : List PickedColor) :
    ((CallEdit.each index .preserve picks).foldl (edited codec) p).color.encoding =
      p.color.encoding := by
  induction picks generalizing p with
  | nil => rfl
  | cons picked picks ih =>
      have hkept : (p.edited codec ⟨index, picked, .preserve⟩).color.encoding = p.color.encoding :=
        Encoding.written_of_ne_named hp
      have hrest := ih (hkept ▸ hp)
      rw [hkept] at hrest
      exact hrest

theorem foldl_preserve {p : Piece} (hp : p.color.encoding ≠ .named) (index : Nat)
    (earlier : List PickedColor) (last : PickedColor) :
    (CallEdit.each index .preserve (earlier ++ [last])).foldl (edited codec) p =
      p.edited codec ⟨index, last, .preserve⟩ := by
  rw [CallEdit.each, List.map_append, List.foldl_append]
  apply edited_eq_of_encoding_eq
  · exact gap_foldl_edited p _
  · exact encoding_foldl_preserve hp index earlier

theorem channels_foldl_promote (p : Piece) (index : Nat) (earlier : List PickedColor)
    (last : PickedColor) :
    ((CallEdit.each index .promote (earlier ++ [last])).foldl (edited codec) p).color.toChannels =
      last.channels := by
  rw [CallEdit.each, List.map_append, List.foldl_append]
  exact congrArg (Channels.mk last.channels.toRgb) (AlphaPolicy.alpha_resolve_promote _ _)

end Layout.Piece

theorem Layout.foldl_preserve {codec : Codec} {l : Layout} {k : Nat} {p : Piece}
    (hk : l.pieces[k]? = some p) (hp : p.color.encoding ≠ .named) (earlier : List PickedColor)
    (last : PickedColor) :
    (CallEdit.each k .preserve (earlier ++ [last])).foldl (edited codec) l =
      (CallEdit.each k .preserve [last]).foldl (edited codec) l := by
  apply Layout.ext
  · apply List.ext_getElem?
    intro i
    rw [getElem?_pieces_foldl_edited, getElem?_pieces_foldl_edited]
    by_cases hi : k = i
    · rw [← hi, hk, CallEdit.filter_each, CallEdit.filter_each, Option.map_some, Option.map_some,
        Piece.foldl_preserve hp]
      rfl
    · rw [CallEdit.filter_each_of_ne hi, CallEdit.filter_each_of_ne hi]
  · rw [tail_foldl_edited, tail_foldl_edited]

namespace Buffer

/-- Of the edits of one call the last one decides. Where the notation is kept, and is not a name,
the text is the same as if no other edit had been made; where it is promoted, the call has all four
channels of the last edit. -/
theorem last_edit_of_call_wins {locator : Locator} {t : Text} {k : Nat} {call : ColorCall}
    (hcall : (locator.findAll t).found[k]? = some call) (earlier : List PickedColor)
    (last : PickedColor) :
    (∃ final alone,
      edits? ⟨locator, t⟩ (CallEdit.each k .preserve (earlier ++ [last])) = some final ∧
      edits? ⟨locator, t⟩ (CallEdit.each k .preserve [last]) = some alone ∧
      (call.color.encoding ≠ .named → final.text = alone.text)) ∧
    ∃ final new,
      edits? ⟨locator, t⟩ (CallEdit.each k .promote (earlier ++ [last])) = some final ∧
      (final.locator.findAll final.text).found[k]? = some new ∧
      new.color.toChannels = last.channels := by
  obtain ⟨l, rfl, hl⟩ := Locator.exists_reads locator t
  have hcolor := hl.color_getElem? k
  rw [hcall, Option.map_some] at hcolor
  obtain ⟨p, hp, hpcolor⟩ := Option.map_eq_some_iff.mp hcolor.symm
  have hk : k < l.pieces.length := (List.getElem?_eq_some_iff.mp hp).1
  have hrange : ∀ policy picks, ∀ e ∈ CallEdit.each k policy picks, e.index < l.pieces.length := by
    intro policy picks e he
    obtain ⟨picked, -, rfl⟩ := List.mem_map.mp he
    exact hk
  constructor
  · obtain ⟨after, _, hafter, _⟩ := edits?_of_reads hl (hrange .preserve (earlier ++ [last]))
    obtain ⟨alone, _, halone, _⟩ := edits?_of_reads hl (hrange .preserve [last])
    refine ⟨_, _, hafter, halone, fun hnamed => ?_⟩
    rw [← hpcolor] at hnamed
    rw [Layout.foldl_preserve hp hnamed]
  · obtain ⟨after, halike, hafter, hreads⟩ :=
      edits?_of_reads hl (hrange .promote (earlier ++ [last]))
    have hnew := hreads.color_getElem? k
    rw [Layout.getElem?_pieces_foldl_edited, hp, CallEdit.filter_each, Option.map_some,
      Option.map_some] at hnew
    obtain ⟨new, hfound, hnewColor⟩ := Option.map_eq_some_iff.mp hnew
    refine ⟨_, new, hafter, hfound, ?_⟩
    rw [hnewColor]
    exact Layout.Piece.channels_foldl_promote p k earlier last

theorem last_of_two_edits_wins :
    let buffer : Buffer := ⟨{}, "QColor('red') QColor(1,2,3)"⟩
    let first : PickedColor := .ofChannels ⟨⟨9, 8, 7⟩, 6⟩
    let last : PickedColor := .ofChannels ⟨⟨5, 4, 3⟩, 255⟩
    ∃ call, (buffer.locator.findAll buffer.text).found[1]? = some call ∧
      call.color.encoding ≠ .named ∧
      (∃ final alone, buffer.edits? (CallEdit.each 1 .preserve [first, last]) = some final ∧
        buffer.edits? (CallEdit.each 1 .preserve [last]) = some alone ∧
        final.text = alone.text) ∧
      ∃ final new, buffer.edits? (CallEdit.each 1 .promote [first, last]) = some final ∧
        (final.locator.findAll final.text).found[1]? = some new ∧
        new.color.toChannels = ⟨⟨5, 4, 3⟩, 255⟩ := by
  intro buffer first last
  have hencoding : (buffer.locator.findAll buffer.text).found[1]?.map (·.color.encoding) =
      some .triple := by decide +kernel
  obtain ⟨call, hcall, hcallEncoding⟩ := Option.map_eq_some_iff.mp hencoding
  have hnamed : call.color.encoding ≠ .named := by simp [hcallEncoding]
  obtain ⟨⟨final, alone, hfinal, halone, htext⟩, hpromoted⟩ :=
    last_edit_of_call_wins hcall [first] last
  rw [PickedColor.channels_ofChannels] at hpromoted
  exact ⟨call, hcall, hnamed, ⟨final, alone, hfinal, halone, htext hnamed⟩, hpromoted⟩

end Buffer

end ColorCalls
