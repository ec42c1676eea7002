import ColorCalls.Proofs.Edit.OneCall

/-! A text laid out as its color calls and the stretches between them. Every text has a layout that
a scan reads off it again (`exists_reads`), and one call written anew changes its own piece of the
layout only (`Reads.rewrite`). -/

namespace ColorCalls

namespace Layout

structure Piece where
  gap : Text
  text : Text
  color : Color

namespace Piece

def whole (p : Piece) : Text := p.gap ++ p.text

def call (unit : ColumnUnit) (t : Text) (offset : Nat) (p : Piece) : ColorCall :=
  let start := offset + Text.bytes p.gap
  { span :=
      { start := start
        stop := start + Text.bytes p.text
        startPosition := .ofOffset unit t start
        stopPosition := .ofOffset unit t (start + Text.bytes p.text) }
    color := p.color
    text := p.text }

end Piece

def callsFrom (unit : ColumnUnit) (t : Text) : Nat → List Piece → List ColorCall
  | _, [] => []
  | offset, p :: pieces =>
      p.call unit t offset :: callsFrom unit t (offset + Text.bytes p.whole) pieces

end Layout

@[ext]
structure Layout where
  pieces : List Layout.Piece
  tail : Text

namespace Layout

def text (l : Layout) : Text := l.pieces.flatMap Piece.whole ++ l.tail

def calls (unit : ColumnUnit) (l : Layout) : List ColorCall := callsFrom unit l.text 0 l.pieces

variable {unit : ColumnUnit} {t : Text}

theorem callsFrom_append (offset : Nat) (before after : List Piece) :
    callsFrom unit t offset (before ++ after) =
      callsFrom unit t offset before ++
        callsFrom unit t (offset + Text.bytes (before.flatMap Piece.whole)) after := by
  induction before generalizing offset with
  | nil => rfl
  | cons p before ih =>
      rw [List.cons_append, callsFrom, callsFrom, ih, List.cons_append, List.flatMap_cons,
        Text.bytes_append, Nat.add_assoc]

theorem length_callsFrom (unit : ColumnUnit) (t : Text) (offset : Nat) (pieces : List Piece) :
    (callsFrom unit t offset pieces).length = pieces.length := by
  induction pieces generalizing offset with
  | nil => rfl
  | cons p pieces ih => rw [callsFrom, List.length_cons, List.length_cons, ih]

theorem map_color_callsFrom (offset : Nat) (pieces : List Piece) :
    (callsFrom unit t offset pieces).map ColorCall.color = pieces.map Piece.color := by
  induction pieces generalizing offset with
  | nil => rfl
  | cons p pieces ih =>
      rw [callsFrom, List.map_cons, List.map_cons, ih]
      rfl

def front (before : List Piece) (p : Piece) : Text := before.flatMap Piece.whole ++ p.gap

def behind (after : List Piece) (tail : Text) : Text := after.flatMap Piece.whole ++ tail

theorem text_split (before : List Piece) (p : Piece) (after : List Piece) (tail : Text) :
    text ⟨before ++ p :: after, tail⟩ = front before p ++ p.text ++ behind after tail := by
  simp [text, front, behind, Piece.whole]

theorem calls_split (before : List Piece) (p : Piece) (after : List Piece) (tail : Text) :
    calls unit ⟨before ++ p :: after, tail⟩ =
      callsFrom unit (text ⟨before ++ p :: after, tail⟩) 0 before ++
        p.call unit (text ⟨before ++ p :: after, tail⟩)
            (Text.bytes (before.flatMap Piece.whole)) ::
          callsFrom unit (text ⟨before ++ p :: after, tail⟩)
            (Text.bytes (front before p ++ p.text)) after := by
  rw [calls, callsFrom_append, callsFrom, Nat.zero_add]
  simp only [front, Piece.whole, Text.bytes_append, Nat.add_assoc]

theorem getElem?_calls (unit : ColumnUnit) (before : List Piece) (p : Piece) (after : List Piece)
    (tail : Text) :
    (calls unit ⟨before ++ p :: after, tail⟩)[before.length]? =
      some (p.call unit (text ⟨before ++ p :: after, tail⟩)
        (Text.bytes (before.flatMap Piece.whole))) := by
  have hlength := length_callsFrom unit (text ⟨before ++ p :: after, tail⟩) 0 before
  rw [calls_split, List.getElem?_append_right (Nat.le_of_eq hlength), hlength, Nat.sub_self]
  rfl

theorem slice?_call (unit : ColumnUnit) (before : List Piece) (p : Piece) (after : List Piece)
    (tail : Text) :
    let t := text ⟨before ++ p :: after, tail⟩
    let call := p.call unit t (Text.bytes (before.flatMap Piece.whole))
    Text.slice? call.span.start call.span.stop t =
      some (front before p, call.text, behind after tail) := by
  intro t call
  have hstart : call.span.start = Text.bytes (front before p) := by
    rw [front, Text.bytes_append]
    rfl
  have hstop : call.span.stop = Text.bytes (front before p ++ p.text) := by
    rw [Text.bytes_append, ← hstart]
    rfl
  rw [hstart, hstop, show t = _ from text_split before p after tail]
  exact Text.slice?_append _ _ _

def prepend (s : Text) : Layout → Layout
  | ⟨[], tail⟩ => ⟨[], s ++ tail⟩
  | ⟨p :: pieces, tail⟩ => ⟨{ p with gap := s ++ p.gap } :: pieces, tail⟩

theorem text_prepend (s : Text) (l : Layout) : (l.prepend s).text = s ++ l.text := by
  obtain ⟨pieces, tail⟩ := l
  cases pieces with
  | nil => rfl
  | cons p pieces => simp [prepend, text, Piece.whole]

theorem callsFrom_prepend (offset : Nat) (s : Text) (l : Layout) :
    callsFrom unit t offset (l.prepend s).pieces =
      callsFrom unit t (offset + Text.bytes s) l.pieces := by
  obtain ⟨pieces, tail⟩ := l
  cases pieces with
  | nil => rfl
  | cons p pieces => simp [prepend, callsFrom, Piece.call, Piece.whole, Nat.add_assoc]

theorem exists_of_listFrom (locator : Locator) (whole : Text) (offset : Nat) (t : Text) :
    ∃ l : Layout, l.text = t ∧
      (Call.listFrom locator.codec.callee offset t).filterMap (locator.colorCall? whole) =
        callsFrom locator.unit whole offset l.pieces := by
  induction offset, t using Call.listFrom_induction locator.codec.callee with
  | nil offset =>
      refine ⟨⟨[], []⟩, rfl, ?_⟩
      rw [Call.listFrom_nil]
      rfl
  | call offset o hfits ih =>
      obtain ⟨l, htext, hcalls⟩ := ih
      rw [Call.listFrom_whole offset hfits, List.filterMap_cons, hcalls, Call.Opening.whole_eq]
      cases hcall : locator.colorCall? whole (o.call offset) with
      | none =>
          refine ⟨l.prepend o.text, by rw [text_prepend, htext], ?_⟩
          exact (callsFrom_prepend offset o.text l).symm
      | some found =>
          obtain ⟨color, -, rfl⟩ := Option.map_eq_some_iff.mp hcall
          refine ⟨⟨⟨[], o.text, color⟩ :: l.pieces, l.tail⟩, ?_, rfl⟩
          rw [← htext]
          simp [text, Piece.whole]
  | skip offset c r hnone ih =>
      obtain ⟨l, htext, hcalls⟩ := ih
      refine ⟨l.prepend [c], by rw [text_prepend, htext]; rfl, ?_⟩
      rw [Call.listFrom_of_eq_none offset hnone, hcalls, callsFrom_prepend]
      rfl

end Layout

namespace Locator

/-- The scan finds the pieces of the layout in its text, and no other color calls. -/
def Reads (locator : Locator) (l : Layout) : Prop :=
  (locator.findAll l.text).found = l.calls locator.unit

variable {locator locator' : Locator} {l : Layout}

theorem exists_reads (locator : Locator) (t : Text) :
    ∃ l : Layout, l.text = t ∧ locator.Reads l := by
  obtain ⟨l, rfl, hcalls⟩ := Layout.exists_of_listFrom locator t 0 t
  exact ⟨l, rfl, (found_findAll locator l.text).trans hcalls⟩

theorem Alike.reads (h : locator.Alike locator') (hl : locator.Reads l) : locator'.Reads l := by
  rw [Reads, h.found, h.unit]
  exact hl

theorem Reads.length_found (hl : locator.Reads l) :
    (locator.findAll l.text).found.length = l.pieces.length := by
  rw [hl]
  exact Layout.length_callsFrom _ _ 0 l.pieces

theorem eq_callsFrom_of_shifted {unit : ColumnUnit} {t t' : Text} {distance distance' : Nat}
    {pieces : List Layout.Piece} {calls : List ColorCall} (seen : Nat)
    (hshifted : List.Forall₂ (ColorCall.Shifted distance distance')
      (Layout.callsFrom unit t (distance + seen) pieces) calls)
    (hplaced : ∀ call ∈ calls, call.PlacedIn unit t') :
    calls = Layout.callsFrom unit t' (distance' + seen) pieces := by
  induction pieces generalizing calls seen with
  | nil =>
      cases hshifted
      rfl
  | cons p pieces ih =>
      cases hshifted with
      | @cons _ call _ calls hcall hcalls =>
          rw [Nat.add_assoc] at hcalls
          have hrest := ih _ hcalls fun other hother =>
            hplaced other (List.mem_cons_of_mem call hother)
          obtain ⟨hstartPosition, hstopPosition⟩ := hplaced call List.mem_cons_self
          have hstart : call.span.start = distance' + seen + Text.bytes p.gap := by
            have hstart := hcall.start
            simp only [Layout.Piece.call] at hstart
            omega
          have hstop : call.span.stop =
              distance' + seen + Text.bytes p.gap + Text.bytes p.text := by
            have hstop := hcall.stop
            simp only [Layout.Piece.call] at hstop
            omega
          have hhead : call = p.call unit t' (distance' + seen) := by
            obtain ⟨⟨start, stop, startPosition, stopPosition⟩, color, text⟩ := call
            have htext := hcall.text
            have hcolor := hcall.color
            simp only at hstart hstop hstartPosition hstopPosition htext hcolor
            rw [hstartPosition, hstopPosition, hstart, hstop, htext, hcolor]
            rfl
          rw [Layout.callsFrom, hrest, hhead, Nat.add_assoc]

theorem Reads.color_getElem? (hl : locator.Reads l) (k : Nat) :
    (locator.findAll l.text).found[k]?.map ColorCall.color =
      l.pieces[k]?.map Layout.Piece.color := by
  rw [hl, ← List.getElem?_map, ← List.getElem?_map, Layout.calls, Layout.map_color_callsFrom]

theorem Reads.replace {before after : List Layout.Piece} {p : Layout.Piece} {tail : Text}
    (hl : locator.Reads ⟨before ++ p :: after, tail⟩) {o : Call.Opening} {call : ColorCall}
    (hfits : o.Fits locator.codec.callee) (hrest : o.rest = Layout.behind after tail)
    (hcall : locator.colorCall? (Layout.front before p ++ o.whole)
      (o.call (Text.bytes (Layout.front before p))) = some call) :
    (locator.findAll (Layout.front before p ++ o.whole)).found =
      Layout.callsFrom locator.unit (Layout.front before p ++ o.whole) 0 before ++
        call :: Layout.callsFrom locator.unit (Layout.front before p ++ o.whole)
          (Text.bytes (Layout.front before p ++ o.text)) after := by
  rw [Reads, Layout.calls_split] at hl
  obtain ⟨seen, old, ht, htext, hstart, -, hreplace⟩ := found_replace hl
  have htext : p.text = old.text := htext
  have hseen : Text.bytes (Layout.front before p) = Text.bytes seen := by
    rw [← hstart, Layout.front, Text.bytes_append]
    rfl
  rw [Layout.text_split, List.append_assoc] at ht
  obtain ⟨rfl, hwhole⟩ := Text.append_inj_of_bytes_eq ht hseen
  rw [Call.Opening.whole_eq, htext, List.append_cancel_left_eq] at hwhole
  obtain ⟨first, last, hfound, hfirst, hlast⟩ :=
    hreplace locator o call rfl rfl hfits (hrest.trans hwhole) hcall
  have hplaced : ∀ other ∈ (locator.findAll (Layout.front before p ++ o.whole)).found,
      other.PlacedIn locator.unit (Layout.front before p ++ o.whole) :=
    fun _ => placedIn_of_mem_found
  rw [hfound] at hplaced ⊢
  rw [← htext] at hlast
  have hfirst := eq_callsFrom_of_shifted 0 hfirst fun other hother =>
    hplaced other (List.mem_append_left _ hother)
  have hlast := eq_callsFrom_of_shifted 0 hlast fun other hother =>
    hplaced other (List.mem_append_right _ (List.mem_cons_of_mem _ hother))
  rw [hfirst, hlast]
  rfl

/-- A call of the layout written anew leaves the rest of the layout as it was. -/
theorem Reads.rewrite {before after : List Layout.Piece} {p : Layout.Piece} {tail : Text}
    (hl : locator.Reads ⟨before ++ p :: after, tail⟩) (color : Color) :
    locator.Reads
      ⟨before ++ ⟨p.gap, locator.codec.format color, color.written⟩ :: after, tail⟩ := by
  let p' : Layout.Piece := ⟨p.gap, locator.codec.format color, color.written⟩
  let o := locator.codec.writtenCall color (Layout.behind after tail)
  have htext : Layout.text ⟨before ++ p' :: after, tail⟩ = Layout.front before p ++ o.whole := by
    rw [Layout.text_split, Codec.whole_writtenCall, ← List.append_assoc]
    rfl
  have hcall := colorCall?_writtenCall locator (Layout.front before p ++ o.whole) color o.rest
    (Text.bytes (Layout.front before p))
  have hfound := hl.replace (o := o) (Codec.fits_writtenCall _ _ _) rfl hcall
  rw [Reads, Layout.calls_split, htext, hfound, Codec.text_writtenCall]
  congr 2
  simp only [colorCall, Call.Opening.call, Codec.text_writtenCall, Layout.Piece.call,
    Layout.front, Text.bytes_append]

end Locator

end ColorCalls
