import ColorCalls.Proofs.Arguments
import ColorCalls.Proofs.Edit.Sequence

/-! Every color call of a text given the color that it has, from the first to the last. On a layout
the pass writes each piece anew and leaves the gaps alone (`pass?_of_reads`). A color that was read
fits its notation, so it is written as what it is, and a piece that was written once stays as it is
in the next pass (`pass_alters_no_color`). -/

namespace ColorCalls

theorem AlphaPolicy.resolve_of_fitsNotation (policy : AlphaPolicy) {c : Color}
    (hc : c.FitsNotation) : policy.resolve c.encoding c.alpha = c.encoding := by
  cases policy with
  | preserve => rfl
  | promote =>
      cases hencoding : c.encoding with
      | triple =>
          have halpha : c.alpha = 255 := hc (by rw [hencoding]; rfl)
          rw [resolve, if_pos halpha]
      | quad => rfl
      | hex => rfl
      | named =>
          have halpha : c.alpha = 255 := hc (by rw [hencoding]; rfl)
          rw [resolve, if_pos halpha]

theorem Encoding.written_eq_ite (encoding : Encoding) :
    encoding.written = if encoding = .named then .hex else encoding := by
  cases encoding with
  | triple => rfl
  | quad => rfl
  | hex => rfl
  | named => rfl

namespace Color

theorem edited_own (policy : AlphaPolicy) {c : Color} (hc : c.FitsNotation) :
    c.edited (.ofChannels c.toChannels) policy = c := by
  rw [edited, PickedColor.channels_ofChannels, policy.resolve_of_fitsNotation hc]
  rfl

theorem toChannels_written {c : Color} (hc : c.FitsNotation) :
    c.written.toChannels = c.toChannels := by
  have halpha : (if c.encoding.carriesAlpha then c.alpha else 255) = c.alpha := by
    split
    · rfl
    · rename_i hcarries
      exact (hc (by simpa using hcarries)).symm
  exact congrArg (Channels.mk c.toRgb) halpha

end Color

namespace Locator

theorem fitsNotation_of_mem_found {locator : Locator} {t : Text} {call : ColorCall}
    (hcall : call ∈ (locator.findAll t).found) : call.color.FitsNotation := by
  rw [found_findAll, List.mem_filterMap] at hcall
  obtain ⟨raw, -, hraw⟩ := hcall
  rw [colorCall?_eq] at hraw
  obtain ⟨color, hread, rfl⟩ := Option.map_eq_some_iff.mp hraw
  exact Arguments.fitsNotation_of_read (eq_ok_of_toOption_eq_some hread)

theorem Reads.map_color_found {locator : Locator} {l : Layout} (hl : locator.Reads l) :
    (locator.findAll l.text).found.map ColorCall.color = l.pieces.map Layout.Piece.color := by
  rw [hl, Layout.calls, Layout.map_color_callsFrom]

theorem Reads.fitsNotation {locator : Locator} {l : Layout} (hl : locator.Reads l)
    {p : Layout.Piece} (hp : p ∈ l.pieces) : p.color.FitsNotation := by
  have hcolor : p.color ∈ (locator.findAll l.text).found.map ColorCall.color := by
    rw [hl.map_color_found]
    exact List.mem_map_of_mem hp
  obtain ⟨call, hcall, heq⟩ := List.mem_map.mp hcolor
  rw [← heq]
  exact fitsNotation_of_mem_found hcall

end Locator

/-- The stretches of a text around its calls, from `start` on; none where the offsets do not cut the
text between two characters. -/
def outside (t : Text) (start : Nat) : List ColorCall → List (Option Text)
  | [] => [(Text.slice? start (Text.bytes t) t).map fun (_, stretch, _) => stretch]
  | call :: calls =>
      ((Text.slice? start call.span.start t).map fun (_, stretch, _) => stretch) ::
        outside t call.span.stop calls

namespace Layout

def gaps (l : Layout) : List Text := l.pieces.map Piece.gap ++ [l.tail]

theorem outside_callsFrom (unit : ColumnUnit) {t : Text} (seen : Text) (pieces : List Piece)
    (tail : Text) (ht : t = seen ++ text ⟨pieces, tail⟩) :
    outside t (Text.bytes seen) (callsFrom unit t (Text.bytes seen) pieces) =
      (gaps ⟨pieces, tail⟩).map some := by
  induction pieces generalizing seen with
  | nil =>
      have hslice := Text.slice?_append seen tail []
      rw [List.append_nil] at hslice
      rw [callsFrom, outside, show t = seen ++ tail from ht, hslice]
      rfl
  | cons p pieces ih =>
      have hsplit : t = seen ++ p.gap ++ (p.text ++ text ⟨pieces, tail⟩) := by
        rw [ht]
        simp [text, Piece.whole]
      have hslice := Text.slice?_append seen p.gap (p.text ++ text ⟨pieces, tail⟩)
      rw [← hsplit] at hslice
      have hrest := ih (seen ++ p.whole) (by rw [hsplit]; simp [Piece.whole])
      have hstart : (p.call unit t (Text.bytes seen)).span.start =
          Text.bytes (seen ++ p.gap) := by
        rw [Text.bytes_append]
        rfl
      have hstop : (p.call unit t (Text.bytes seen)).span.stop =
          Text.bytes (seen ++ p.whole) := by
        rw [Piece.whole, Text.bytes_append, Text.bytes_append, ← Nat.add_assoc]
        rfl
      rw [callsFrom, outside, hstart, hslice, hstop, ← Text.bytes_append, hrest]
      rfl

end Layout

theorem Locator.Reads.outside_found {locator : Locator} {l : Layout} (hl : locator.Reads l) :
    outside l.text 0 (locator.findAll l.text).found = l.gaps.map some := by
  rw [hl]
  exact Layout.outside_callsFrom locator.unit [] l.pieces l.tail rfl

namespace Layout

def Piece.rewritten (codec : Codec) (p : Piece) : Piece :=
  ⟨p.gap, codec.format p.color, p.color.written⟩

def rewritten (codec : Codec) (l : Layout) : Layout :=
  { l with pieces := l.pieces.map (Piece.rewritten codec) }

theorem Piece.edited_own {codec : Codec} {p : Piece} (hp : p.color.FitsNotation) (index : Nat)
    (policy : AlphaPolicy) :
    p.edited codec ⟨index, .ofChannels p.color.toChannels, policy⟩ = p.rewritten codec := by
  rw [edited, Color.edited_own policy hp]
  rfl

theorem gaps_rewritten (codec : Codec) (l : Layout) : (l.rewritten codec).gaps = l.gaps := by
  rw [gaps, gaps, rewritten, List.map_map]
  rfl

theorem text_rewritten_rewritten (codec : Codec) (l : Layout) :
    ((l.rewritten codec).rewritten codec).text = (l.rewritten codec).text := by
  have hwhole : ∀ p : Piece, ((p.rewritten codec).rewritten codec).whole =
      (p.rewritten codec).whole := by
    intro p
    exact congrArg (p.gap ++ ·) (Codec.format_written codec p.color)
  simp only [text, rewritten, List.flatMap_map, hwhole]

end Layout

theorem Locator.Alike.rewritten {locator locator' : Locator} (h : locator.Alike locator') :
    Layout.Piece.rewritten locator'.codec = Layout.Piece.rewritten locator.codec := by
  funext p
  rw [Layout.Piece.rewritten, Layout.Piece.rewritten, h.format]

namespace Buffer

def confirm? (policy : AlphaPolicy) (buffer : Buffer) (index : Nat) : Option Buffer :=
  (buffer.locator.findAll buffer.text).found[index]?.bind fun call =>
    buffer.edit? ⟨index, .ofChannels call.color.toChannels, policy⟩

def pass? (policy : AlphaPolicy) (buffer : Buffer) : Option Buffer :=
  (List.range (buffer.locator.findAll buffer.text).found.length).foldlM (confirm? policy) buffer

variable {locator : Locator}

theorem confirm?_of_reads (policy : AlphaPolicy) {done todo : List Layout.Piece}
    {p : Layout.Piece} {tail : Text} (hl : locator.Reads ⟨done ++ p :: todo, tail⟩) :
    ∃ locator', locator.Alike locator' ∧
      confirm? policy ⟨locator, Layout.text ⟨done ++ p :: todo, tail⟩⟩ done.length =
        some ⟨locator', Layout.text ⟨done ++ p.rewritten locator.codec :: todo, tail⟩⟩ ∧
      locator'.Reads ⟨done ++ p.rewritten locator.codec :: todo, tail⟩ := by
  have hcolor := hl.color_getElem? done.length
  rw [List.getElem?_append_right (Nat.le_refl _), Nat.sub_self, List.getElem?_cons_zero,
    Option.map_some] at hcolor
  obtain ⟨call, hcall, hpcolor⟩ := Option.map_eq_some_iff.mp hcolor
  have hfits : p.color.FitsNotation :=
    hl.fitsNotation (List.mem_append_right done List.mem_cons_self)
  let e : CallEdit := ⟨done.length, .ofChannels p.color.toChannels, policy⟩
  obtain ⟨locator', halike, hedit, hreads⟩ := edit?_of_reads hl (e := e) (by simp [e])
  rw [Layout.edited_split locator.codec rfl, Layout.Piece.edited_own hfits] at hedit hreads
  refine ⟨locator', halike, ?_, hreads⟩
  rw [confirm?, hcall, Option.bind_some, hpcolor]
  exact hedit

theorem foldlM_confirm?_of_reads (policy : AlphaPolicy) {done todo : List Layout.Piece}
    {tail : Text} (hl : locator.Reads ⟨done ++ todo, tail⟩) :
    ∃ locator', locator.Alike locator' ∧
      (List.range' done.length todo.length).foldlM (confirm? policy)
          ⟨locator, Layout.text ⟨done ++ todo, tail⟩⟩ =
        some ⟨locator',
          Layout.text ⟨done ++ todo.map (Layout.Piece.rewritten locator.codec), tail⟩⟩ ∧
      locator'.Reads ⟨done ++ todo.map (Layout.Piece.rewritten locator.codec), tail⟩ := by
  induction todo generalizing locator done with
  | nil => exact ⟨locator, ⟨rfl, rfl, rfl⟩, rfl, hl⟩
  | cons p todo ih =>
      obtain ⟨locator₁, halike₁, hfirst, hl₁⟩ := confirm?_of_reads policy hl
      rw [List.append_cons done] at hl₁
      obtain ⟨locator', halike, hrest, hl'⟩ := ih hl₁
      simp only [halike₁.rewritten, List.append_assoc, List.singleton_append, List.length_append,
        List.length_singleton] at hrest hl'
      refine ⟨locator', halike₁.trans halike, ?_, hl'⟩
      rw [List.length_cons, List.range'_succ, List.foldlM_cons, hfirst]
      exact hrest

theorem pass?_of_reads (policy : AlphaPolicy) {l : Layout} (hl : locator.Reads l) :
    ∃ locator', locator.Alike locator' ∧
      pass? policy ⟨locator, l.text⟩ = some ⟨locator', (l.rewritten locator.codec).text⟩ ∧
      locator'.Reads (l.rewritten locator.codec) := by
  obtain ⟨locator', halike, hpass, hl'⟩ :=
    foldlM_confirm?_of_reads policy (show locator.Reads ⟨[] ++ l.pieces, l.tail⟩ from hl)
  refine ⟨locator', halike, ?_, hl'⟩
  rw [pass?, hl.length_found, List.range_eq_range']
  exact hpass

/-- A pass gives every call the color that it has: the calls of the text keep their number, their
channels and their notations, names excepted, which are written as hexadecimal colors. Around the
calls the text stays as it was, and one more pass changes nothing at all. -/
theorem pass_alters_no_color (locator : Locator) (t : Text) (policy : AlphaPolicy) :
    ∃ final, pass? policy ⟨locator, t⟩ = some final ∧
      let old := (locator.findAll t).found
      let new := (final.locator.findAll final.text).found
      new.length = old.length ∧
      new.map (·.color.toChannels) = old.map (·.color.toChannels) ∧
      new.map (·.color.encoding) = old.map (fun call =>
        if call.color.encoding = .named then .hex else call.color.encoding) ∧
      (∃ gaps : List Text, outside t 0 old = gaps.map some ∧
        outside final.text 0 new = gaps.map some) ∧
      ∃ again, pass? policy final = some again ∧ again.text = final.text := by
  obtain ⟨l, rfl, hl⟩ := Locator.exists_reads locator t
  obtain ⟨locator', halike, hpass, hl'⟩ := pass?_of_reads policy hl
  obtain ⟨locator'', -, hagain, -⟩ := pass?_of_reads policy hl'
  have hcolors : (locator'.findAll (l.rewritten locator.codec).text).found.map ColorCall.color =
      (locator.findAll l.text).found.map fun call => call.color.written := by
    have hold := congrArg (List.map Color.written) hl.map_color_found
    rw [List.map_map, List.map_map] at hold
    rw [hl'.map_color_found, Layout.rewritten, List.map_map]
    exact hold.symm
  have hfits : ∀ call ∈ (locator.findAll l.text).found, call.color.FitsNotation :=
    fun _ => Locator.fitsNotation_of_mem_found
  refine ⟨_, hpass, ?_, ?_, ?_, ⟨l.gaps, hl.outside_found, ?_⟩, _, hagain, ?_⟩
  · have hlength := congrArg List.length hcolors
    rwa [List.length_map, List.length_map] at hlength
  · have hchannels := congrArg (List.map Color.toChannels) hcolors
    rw [List.map_map, List.map_map] at hchannels
    refine hchannels.trans (List.map_congr_left fun call hcall => ?_)
    exact Color.toChannels_written (hfits call hcall)
  · have hencodings := congrArg (List.map Color.encoding) hcolors
    rw [List.map_map, List.map_map] at hencodings
    refine hencodings.trans (List.map_congr_left fun call _ => ?_)
    exact Encoding.written_eq_ite call.color.encoding
  · rw [hl'.outside_found, Layout.gaps_rewritten]
  · rw [Layout.rewritten, halike.rewritten]
    exact Layout.text_rewritten_rewritten locator.codec l

end Buffer

end ColorCalls
