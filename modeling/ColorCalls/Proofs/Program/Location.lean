import ColorCalls.Proofs.Invocation.Position
import ColorCalls.Proofs.Locator.Cursor
import ColorCalls.Proofs.Program.Files
import ColorCalls.Proofs.Program.Rows

namespace ColorCalls

/-- The run is asked to set a color at a location, and nothing keeps it from looking there. -/
structure Session.SetsAt (session : Session) (settings : Settings) (path location : Text)
    (picked : PickedColor) : Prop where
  drafted : ∃ d colorText, Invocation.Draft.absorb {} session.arguments = .ok d ∧
    d.positionals = ["set".toList, path, location, colorText] ∧
    Invocation.color colorText = .ok picked ∧ d.invocation.help = false ∧ d.dryRun = false ∧
    session.settings d.invocation = settings
  enabled : settings.enabled = true
  pattern : session.patternFault settings.callee = none

namespace Program

variable {session : Session} {settings : Settings} {path location : Text} {picked : PickedColor}

theorem sets_of_setsAt (h : session.SetsAt settings path location picked) {p : Position}
    (hp : Invocation.position location = .ok p) :
    ∃ invocation, session.settings invocation = settings ∧
      session.Sets invocation ⟨path, p, picked, false⟩ := by
  obtain ⟨⟨d, colorText, hdraft, hpositionals, hcolor, hhelp, hdryRun, rfl⟩, henabled, -⟩ := h
  have hunderstood := Invocation.ofArguments_of_set hdraft hhelp hpositionals hp hcolor
  rw [hdryRun] at hunderstood
  exact ⟨{ d.invocation with command := some (.set ⟨path, p, picked, false⟩) }, rfl, hunderstood,
    hhelp, rfl, henabled⟩

theorem position_startPosition {t : Text} (hsize : Text.bytes t ≤ Text.maxWord) {call : ColorCall}
    (hcall : call ∈ (settings.locator.findAll t).found) :
    Invocation.position call.span.startPosition.display = .ok call.span.startPosition := by
  have hlt := Locator.start_lt_stop_of_mem_found hcall
  obtain ⟨⟨before, after, ht, hstart⟩, seen, rest, hseen, hstop⟩ :=
    Locator.endsAt_of_mem_found hcall
  have hle : (Position.atEnd settings.unit before).line +
      (Position.atEnd settings.unit before).character ≤ 0 + 0 + Text.bytes before :=
    Position.line_add_character_le settings.unit ⟨0, 0⟩ before
  have hposition : call.span.startPosition = .atEnd settings.unit before := by
    rw [(Locator.placedIn_of_mem_found hcall).start, ht, ← hstart]
    exact Position.ofOffset_bytes _ _ _
  have hbytes : Text.bytes t = call.span.stop + Text.bytes rest := by
    rw [hseen, Text.bytes_append, hstop]
  rw [hposition]
  apply Invocation.position_display
  · omega
  · omega

theorem mem_rows_listing_of_read {scanning : Session} {given : List Text} {t : Text}
    (hgiven : path ∈ given) (hpath : path ≠ inputSource) (hread : scanning.files.read path = .ok t)
    {call : ColorCall} (hcall : call ∈ (settings.locator.findAll t).found) :
    Listing.Row.ofCall path call ∈ (listing scanning settings given).rows := by
  rw [mem_rows_listing_iff]
  refine ⟨path, ?_, t, ?_, call, hcall, ?_⟩
  · rw [sourcesOf, if_neg (List.ne_nil_of_mem hgiven)]
    exact hgiven
  · rw [readSource, if_neg hpath]
    exact hread
  · rw [label, if_neg hpath]

/-- The location in a row of a listing is understood as the position where the row's call begins.
The call selected there is this one, unless another one ends there; then it is the other one.
Setting a color at the location rewrites the selected call and nothing else, and succeeds as long as
the file can be written. -/
theorem set_at_listed_location (settings : Settings) {t : Text}
    (hsize : Text.bytes t ≤ Text.maxWord) {call : ColorCall}
    (hcall : call ∈ (settings.locator.findAll t).found) :
    let found := (settings.locator.findAll t).found
    let location := call.span.startPosition.display
    (∀ (scanning : Session) (given : List Text) (path : Text), path ∈ given →
      path ≠ inputSource → scanning.files.read path = .ok t →
      ∃ row ∈ (listing scanning settings given).rows,
        row.call = call ∧ row.location = path ++ ':' :: location) ∧
    Invocation.position location = .ok call.span.startPosition ∧
    ∃ selected ∈ found, callAt? found call.span.startPosition = some selected ∧
      (selected.span.stop = call.span.start ∨
        selected = call ∧ ∀ other ∈ found, other.span.stop ≠ call.span.start) ∧
      ∀ (session : Session) (path : Text) (picked : PickedColor),
        session.SetsAt settings path location picked → session.files.read path = .ok t →
        ∃ before after,
          Text.slice? selected.span.start selected.span.stop t =
            some (before, selected.text, after) ∧
          let written := session.files.write path (before ++
            (planEdit settings.codec selected picked settings.policy).text ++ after)
          ((run session).status = 0 ↔ written.1 = .ok ()) ∧
          (run session).files = written.2 := by
  intro found location
  have hposition := position_startPosition hsize hcall
  obtain ⟨selected, hselected, hcallAt, hwhich⟩ := Locator.callAt?_startPosition hcall
  refine ⟨?_, hposition, selected, hselected, hcallAt, hwhich, ?_⟩
  · intro scanning given path hgiven hpath hread
    exact ⟨_, mem_rows_listing_of_read hgiven hpath hread hcall, rfl, rfl⟩
  · intro session path picked hsetsAt hread
    obtain ⟨before, after, hslice, hedit⟩ :=
      Locator.editAt_of_callAt?_eq_some hcallAt picked settings.policy
    obtain ⟨invocation, hsettings, hsets⟩ := sets_of_setsAt hsetsAt hposition
    let target : SetTarget := ⟨path, call.span.startPosition, picked, false⟩
    have hedited : session.edited? settings target = some _ :=
      edited?_eq_some_iff.mpr ⟨hsetsAt.pattern, t, hread, hedit⟩
    rcases run_of_sets hsets with ⟨hnone, -⟩ | ⟨new, hnew, hcompletes⟩
    · rw [hsettings, hedited] at hnone
      contradiction
    · rw [hsettings, hedited] at hnew
      cases hnew
      exact ⟨before, after, hslice, hcompletes.wet rfl⟩

/-- Where two calls stand side by side, the location of the second one leads to the first. -/
theorem location_of_adjacent_call :
    let found := (({} : Settings).locator.findAll "QColor(1,2,3)QColor(4,5,6)").found
    ¬ ∀ call ∈ found, callAt? found call.span.startPosition = some call := by
  decide +kernel

theorem set_at_location_of_second_call :
    let settings : Settings := {}
    let t : Text := "QColor(1,2,3) QColor(4,5,6)"
    let session : Session :=
      { arguments := ["set", "a.py", "1:15", "9,8,7"]
        environment := fun _ => none
        input := .empty
        files := { files := [("a.py", encodeText t)], resolve := .ok } }
    let picked : PickedColor := .ofChannels ⟨⟨9, 8, 7⟩, 255⟩
    ∃ call before after, (settings.locator.findAll t).found[1]? = some call ∧
      Text.slice? call.span.start call.span.stop t = some (before, call.text, after) ∧
      (run session).status = 0 ∧
      (run session).files = (session.files.write "a.py"
        (before ++ (planEdit settings.codec call picked settings.policy).text ++ after)).2 := by
  intro settings t session picked
  have hplace : (settings.locator.findAll t).found[1]?.map
      (fun call => (call.span.startPosition.display, call.span.start)) =
        some ("1:15".toList, 14) := by decide +kernel
  have hstops : (settings.locator.findAll t).found.map (·.span.stop) = [13, 27] := by
    decide +kernel
  have hcolor : (Invocation.color "9,8,7").toOption = some picked := by decide +kernel
  obtain ⟨call, hcall, hplaced⟩ := Option.map_eq_some_iff.mp hplace
  obtain ⟨hlocation, hstart⟩ := Prod.mk.inj hplaced
  have hsets : session.SetsAt settings "a.py" call.span.startPosition.display picked := by
    rw [hlocation]
    exact ⟨⟨{ positionals := session.arguments }, "9,8,7", rfl, rfl,
      eq_ok_of_toOption_eq_some hcolor, rfl, rfl, rfl⟩, rfl, rfl⟩
  have hread : session.files.read "a.py" = .ok t :=
    FileStore.read_eq_ok_iff.mpr ⟨"a.py", rfl, rfl⟩
  obtain ⟨-, -, selected, hselected, -, hwhich, hset⟩ :=
    set_at_listed_location settings (by decide +kernel) (List.mem_of_getElem? hcall)
  obtain ⟨before, after, hslice, hstatus, hfiles⟩ := hset session "a.py" picked hsets hread
  have hself : selected = call := by
    rcases hwhich with hstop | ⟨hself, -⟩
    · have hmem := List.mem_map_of_mem (f := fun other => other.span.stop) hselected
      rw [hstops, hstop, hstart] at hmem
      contradiction
    · exact hself
  rw [hself] at hslice hstatus hfiles
  exact ⟨call, before, after, hcall, hslice, hstatus.mpr rfl, hfiles⟩

end Program

end ColorCalls
