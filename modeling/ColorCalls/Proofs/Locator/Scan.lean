import ColorCalls.Locator
import ColorCalls.Proofs.Call.Pattern
import ColorCalls.Proofs.Call.PlainScan

/-! What a scan finds. A codec's memory has no part in it: the color calls are those calls of the
text whose arguments can be read under the codec's names (`found_findAll`). The calls themselves are
given in two more ways, by a plain reading of the text and by a search pattern. -/

namespace ColorCalls

structure ColorCall.PlacedIn (unit : ColumnUnit) (t : Text) (call : ColorCall) : Prop where
  start : call.span.startPosition = .ofOffset unit t call.span.start
  stop : call.span.stopPosition = .ofOffset unit t call.span.stop

namespace Locator

def colorCall? (locator : Locator) (t : Text) (call : Call) : Option ColorCall :=
  (locator.codec.parse call.arguments).result.toOption.map (colorCall locator.unit t call)

def colorMatch? (locator : Locator) (t : Text) (found : Pattern.Match) : Option ColorCall :=
  found.captured.bind fun arguments =>
    (locator.codec.parse arguments).result.toOption.map fun color =>
      { span :=
          { start := found.start
            stop := found.stop
            startPosition := .ofOffset locator.unit t found.start
            stopPosition := .ofOffset locator.unit t found.stop }
        color := color
        text := found.text }

theorem colorCall?_eq (locator : Locator) (t : Text) (call : Call) :
    locator.colorCall? t call =
      (Arguments.read locator.codec.names (Text.trim call.arguments)).toOption.map
        (colorCall locator.unit t call) := by
  rw [colorCall?, Codec.result_parse]

@[simp] theorem colorCall?_remembering (locator : Locator) (t : Text) (text : Text) (call : Call) :
    (locator.remembering (locator.codec.parse text)).colorCall? t call =
      locator.colorCall? t call := by
  rw [colorCall?_eq, colorCall?_eq]
  simp only [remembering, Codec.names_parse]

theorem found_readCalls (locator : Locator) (t : Text) (calls : List Call) :
    (locator.readCalls t calls).found = calls.filterMap (locator.colorCall? t) := by
  induction calls generalizing locator with
  | nil => rfl
  | cons call calls ih =>
      have hrest := ih (locator.remembering (locator.codec.parse call.arguments))
      simp only [colorCall?_remembering] at hrest
      rw [readCalls, List.filterMap_cons]
      cases hresult : (locator.codec.parse call.arguments).result with
      | ok color =>
          have hcall : locator.colorCall? t call = some (colorCall locator.unit t call color) := by
            rw [colorCall?, hresult]
            rfl
          simp only [hcall, hrest]
      | error rejection =>
          have hcall : locator.colorCall? t call = none := by
            rw [colorCall?, hresult]
            rfl
          simp only [hcall, hrest]

theorem found_findAll (locator : Locator) (t : Text) :
    (locator.findAll t).found =
      (Call.list locator.codec.callee t).filterMap (locator.colorCall? t) :=
  found_readCalls locator t _

theorem codec_readCalls (locator : Locator) (t : Text) (calls : List Call) :
    (locator.readCalls t calls).locator.codec.callee = locator.codec.callee ∧
      (locator.readCalls t calls).locator.codec.names = locator.codec.names ∧
      (locator.readCalls t calls).locator.unit = locator.unit := by
  induction calls generalizing locator with
  | nil => exact ⟨rfl, rfl, rfl⟩
  | cons call calls ih =>
      have hrest := ih (locator.remembering (locator.codec.parse call.arguments))
      simp only [remembering, Codec.callee_parse, Codec.names_parse] at hrest
      rw [readCalls]
      cases hresult : (locator.codec.parse call.arguments).result <;> exact hrest

theorem codec_findAll (locator : Locator) (t : Text) :
    (locator.findAll t).locator.codec.callee = locator.codec.callee ∧
      (locator.findAll t).locator.codec.names = locator.codec.names ∧
      (locator.findAll t).locator.unit = locator.unit :=
  codec_readCalls locator t _

theorem exists_call_of_mem_found {locator : Locator} {t : Text} {found : ColorCall}
    (h : found ∈ (locator.findAll t).found) :
    ∃ call ∈ Call.list locator.codec.callee t, ∃ color,
      found = colorCall locator.unit t call color := by
  rw [found_findAll] at h
  obtain ⟨call, hcall, hfound⟩ := List.mem_filterMap.mp h
  obtain ⟨color, -, rfl⟩ := Option.map_eq_some_iff.mp hfound
  exact ⟨call, hcall, color, rfl⟩

theorem standsIn_of_mem_found {locator : Locator} {t : Text} {found : ColorCall}
    (h : found ∈ (locator.findAll t).found) :
    found.span.start < found.span.stop ∧
      ∃ before after,
        Text.slice? found.span.start found.span.stop t = some (before, found.text, after) := by
  obtain ⟨call, hcall, color, rfl⟩ := exists_call_of_mem_found h
  have hstands := (Call.plainScan_list _ t).standsIn call hcall
  exact ⟨hstands.start_lt_stop, hstands.slice?⟩

theorem found_pairwise (locator : Locator) (t : Text) :
    (locator.findAll t).found.Pairwise fun first second =>
      first.span.stop ≤ second.span.start := by
  rw [found_findAll, List.pairwise_filterMap]
  refine (Call.plainScan_list locator.codec.callee t).pairwise.imp ?_
  intro first second hle a ha b hb
  obtain ⟨color, -, rfl⟩ := Option.map_eq_some_iff.mp ha
  obtain ⟨color', -, rfl⟩ := Option.map_eq_some_iff.mp hb
  exact hle

theorem placedIn_of_mem_found {locator : Locator} {t : Text} {found : ColorCall}
    (h : found ∈ (locator.findAll t).found) : found.PlacedIn locator.unit t := by
  obtain ⟨_, _, _, rfl⟩ := exists_call_of_mem_found h
  exact ⟨rfl, rfl⟩

/-- The locators look for the same calls, read them alike, and count columns alike. -/
structure Alike (locator locator' : Locator) : Prop where
  callee : locator'.codec.callee = locator.codec.callee
  names : locator'.codec.names = locator.codec.names
  unit : locator'.unit = locator.unit

theorem Alike.trans {a b c : Locator} (hab : a.Alike b) (hbc : b.Alike c) : a.Alike c :=
  ⟨hbc.callee.trans hab.callee, hbc.names.trans hab.names, hbc.unit.trans hab.unit⟩

theorem alike_findAll (locator : Locator) (t : Text) :
    locator.Alike (locator.findAll t).locator := by
  obtain ⟨hcallee, hnames, hunit⟩ := codec_findAll locator t
  exact ⟨hcallee, hnames, hunit⟩

theorem Alike.found {locator locator' : Locator} (h : locator.Alike locator') (t : Text) :
    (locator'.findAll t).found = (locator.findAll t).found := by
  have hcall : locator'.colorCall? t = locator.colorCall? t := by
    funext call
    rw [colorCall?_eq, colorCall?_eq, h.names, h.unit]
  rw [found_findAll, found_findAll, h.callee, hcall]

theorem colorMatch?_of_isMatch {locator : Locator} {t : Text} {call : Call}
    {found : Pattern.Match} (h : Call.IsMatch call found) :
    locator.colorMatch? t found = locator.colorCall? t call := by
  obtain ⟨core, hcaptured, htrim⟩ := h.captured
  rw [colorMatch?, hcaptured, Option.bind_some, Codec.result_parse, htrim, h.start, h.stop,
    h.text, colorCall?_eq]
  rfl

theorem filterMap_colorMatch? {locator : Locator} {t : Text} {calls : List Call}
    {found : List Pattern.Match} (h : List.Forall₂ Call.IsMatch calls found) :
    found.filterMap (locator.colorMatch? t) = calls.filterMap (locator.colorCall? t) := by
  induction h with
  | nil => rfl
  | cons hmatch _ ih =>
      rw [List.filterMap_cons, List.filterMap_cons, colorMatch?_of_isMatch hmatch, ih]

/-- A scan is a plain reading of the text and a search for the pattern, and it keeps the calls whose
arguments can be read. -/
theorem findAll_eq_plainScan (locator : Locator) (t : Text) :
    ∃ calls,
      (∀ others, Call.PlainScan locator.codec.callee t 0 others ↔ others = calls) ∧
      (∃ hits, (Call.pattern locator.codec.callee).Finds 0 t hits) ∧
      (∀ hits, (Call.pattern locator.codec.callee).Finds 0 t hits →
        (locator.findAll t).found = hits.filterMap (locator.colorMatch? t)) ∧
      ((locator.findAll t).found = calls.filterMap fun call =>
        (locator.codec.parse call.arguments).result.toOption.map fun color =>
          { span :=
              { start := call.start
                stop := call.stop
                startPosition := .ofOffset locator.unit t call.start
                stopPosition := .ofOffset locator.unit t call.stop }
            color := color
            text := call.text }) ∧
      (∀ found ∈ (locator.findAll t).found, found.span.start < found.span.stop ∧
        ∃ before after,
          Text.slice? found.span.start found.span.stop t = some (before, found.text, after)) ∧
      (locator.findAll t).found.Pairwise fun first second =>
        first.span.stop ≤ second.span.start := by
  refine ⟨Call.list locator.codec.callee t, fun others => Call.plainScan_iff,
    Call.exists_finds _ 0 t, ?_, found_findAll locator t, fun found => standsIn_of_mem_found,
    found_pairwise locator t⟩
  intro hits hhits
  rw [found_findAll, filterMap_colorMatch? (Call.forall₂_isMatch_of_finds hhits)]
  rfl

end Locator

end ColorCalls
