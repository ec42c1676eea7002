import ColorCalls.Program
import ColorCalls.Proofs.Edit.Splice
import ColorCalls.Proofs.Locator.Cursor

namespace ColorCalls

def ColorCall.Touched (call : ColorCall) (p : Position) : Prop :=
  call.span.startPosition ≤ p ∧ p ≤ call.span.stopPosition

structure FirstTouched (calls : List ColorCall) (p : Position) (call : ColorCall) : Prop where
  touched : call.Touched p
  first : ∃ before after, calls = before ++ call :: after ∧ ∀ other ∈ before, ¬ other.Touched p

theorem contains_iff_touched {call : ColorCall} {p : Position} :
    call.span.contains p = true ↔ call.Touched p := by
  rw [Span.contains, Bool.and_eq_true, decide_eq_true_eq, decide_eq_true_eq]
  rfl

theorem callAt?_eq_none_iff {calls : List ColorCall} {p : Position} :
    callAt? calls p = none ↔ ∀ call ∈ calls, ¬ call.Touched p := by
  rw [callAt?, List.find?_eq_none]
  simp only [contains_iff_touched]

theorem callAt?_eq_some_iff {calls : List ColorCall} {p : Position} {call : ColorCall} :
    callAt? calls p = some call ↔ FirstTouched calls p call := by
  rw [callAt?, List.find?_eq_some_iff_append]
  simp only [contains_iff_touched, Bool.not_eq_true', ← Bool.not_eq_true]
  exact ⟨fun h => ⟨h.1, h.2⟩, fun h => ⟨h.touched, h.first⟩⟩

/-- The text is another one in the place of the call, where the picked color is written, and the
same everywhere else. -/
def ColorCall.Rewritten (call : ColorCall) (codec : Codec) (picked : PickedColor)
    (policy : AlphaPolicy) (t new : Text) : Prop :=
  ∃ before after, t = before ++ call.text ++ after ∧
    Text.bytes before = call.span.start ∧ Text.bytes (before ++ call.text) = call.span.stop ∧
    new = before ++ codec.format ((call.color.withChannels picked.channels).withEncoding
      (policy.resolve call.color.encoding picked.channels.alpha)) ++ after

section

variable {codec : Codec} {locator : Locator} {call : ColorCall} {t new : Text} {p : Position}
  {picked : PickedColor} {policy : AlphaPolicy}

theorem apply_planEdit_eq_ok_iff :
    (planEdit codec call picked policy).apply t = .ok new ↔
      call.Rewritten codec picked policy t new := by
  rw [Replacement.apply_eq_ok_iff_append]
  simp only [ColorCall.Rewritten, Text.bytes_append]
  rfl

theorem editAt_eq_error_iff {e : EditError} :
    editAt locator t p picked policy = .error e ↔
      e = .noColorAt p ∧ ∀ call ∈ (locator.findAll t).found, ¬ call.Touched p := by
  rw [← callAt?_eq_none_iff]
  cases hcall : callAt? (locator.findAll t).found p with
  | none =>
      simp only [editAt, hcall, Except.error.injEq, and_true]
      exact eq_comm
  | some call =>
      obtain ⟨before, after, -, hedit⟩ := Locator.editAt_of_callAt?_eq_some hcall picked policy
      simp [hedit]

theorem editAt_eq_ok_iff :
    editAt locator t p picked policy = .ok new ↔
      ∃ call, FirstTouched (locator.findAll t).found p call ∧
        call.Rewritten locator.codec picked policy t new := by
  simp only [← callAt?_eq_some_iff, ← apply_planEdit_eq_ok_iff]
  cases hcall : callAt? (locator.findAll t).found p with
  | none => simp [editAt, hcall]
  | some call => simp [editAt, hcall]

end

namespace Program

variable {session : Session} {settings : Settings} {target : SetTarget} {outcome : Outcome}

/-- How a run that sets a color ends: its target cannot be read, the cursor touches no call there,
or the first call that it touches is rewritten. The new text is then shown, or it is written, which
the store can refuse. -/
inductive SetEnds (session : Session) (settings : Settings) (target : SetTarget) : Outcome → Prop
  | unreadable {e : FileError} (hread : session.files.read target.path = .error e) :
      SetEnds session settings target
        { status := 1
          diagnostics := [.complaint (target.path ++ ": " ++ e.message)]
          files := session.files }
  | missed {t : Text} (hread : session.files.read target.path = .ok t)
      (hmissed : ∀ call ∈ (settings.locator.findAll t).found, ¬ call.Touched target.position) :
      SetEnds session settings target
        { status := 1
          diagnostics := (settings.locator.findAll t).notices.map .notice ++
            [.complaint (EditError.noColorAt target.position).message]
          files := session.files }
  | shown {t new : Text} {call : ColorCall} (hread : session.files.read target.path = .ok t)
      (hfirst : FirstTouched (settings.locator.findAll t).found target.position call)
      (hnew : call.Rewritten settings.codec target.picked settings.policy t new)
      (hdryRun : target.dryRun = true) :
      SetEnds session settings target
        { status := 0
          output := new
          diagnostics := (settings.locator.findAll t).notices.map .notice ++
            [.notice (planEdit settings.codec call target.picked settings.policy).notice]
          files := session.files }
  | written {t new : Text} {call : ColorCall} {files : FileStore}
      (hread : session.files.read target.path = .ok t)
      (hfirst : FirstTouched (settings.locator.findAll t).found target.position call)
      (hnew : call.Rewritten settings.codec target.picked settings.policy t new)
      (hdryRun : target.dryRun = false)
      (hwrite : session.files.write target.path new = (.ok (), files)) :
      SetEnds session settings target
        (let plan := planEdit settings.codec call target.picked settings.policy
        { status := 0
          output := report target.path plan
          diagnostics := (settings.locator.findAll t).notices.map .notice ++ [.notice plan.notice]
          files := files
          write := some (target.path, new) })
  | refused {t new : Text} {call : ColorCall} {e : FileError} {files : FileStore}
      (hread : session.files.read target.path = .ok t)
      (hfirst : FirstTouched (settings.locator.findAll t).found target.position call)
      (hnew : call.Rewritten settings.codec target.picked settings.policy t new)
      (hdryRun : target.dryRun = false)
      (hwrite : session.files.write target.path new = (.error e, files)) :
      SetEnds session settings target
        { status := 1
          diagnostics := (settings.locator.findAll t).notices.map .notice ++
            [.notice (planEdit settings.codec call target.picked settings.policy).notice] ++
            [.complaint (target.path ++ ": " ++ e.message)]
          files := files
          write := some (target.path, new) }

theorem SetEnds.eq_runSet (h : SetEnds session settings target outcome) :
    outcome = runSet session settings target := by
  cases h with
  | unreadable hread =>
      simp only [runSet, hread]
      rfl
  | missed hread hmissed => simp only [runSet, hread, callAt?_eq_none_iff.mpr hmissed]
  | shown hread hfirst hnew hdryRun =>
      simp only [runSet, hread, callAt?_eq_some_iff.mpr hfirst,
        apply_planEdit_eq_ok_iff.mpr hnew, hdryRun, if_true]
  | written hread hfirst hnew hdryRun hwrite =>
      simp only [runSet, hread, callAt?_eq_some_iff.mpr hfirst,
        apply_planEdit_eq_ok_iff.mpr hnew, hdryRun, hwrite, Bool.false_eq_true, if_false]
  | refused hread hfirst hnew hdryRun hwrite =>
      simp only [runSet, hread, callAt?_eq_some_iff.mpr hfirst,
        apply_planEdit_eq_ok_iff.mpr hnew, hdryRun, hwrite, Bool.false_eq_true, if_false]

theorem setEnds_runSet (session : Session) (settings : Settings) (target : SetTarget) :
    SetEnds session settings target (runSet session settings target) := by
  suffices hends : ∃ outcome, SetEnds session settings target outcome by
    obtain ⟨outcome, h⟩ := hends
    rw [← h.eq_runSet]
    exact h
  cases hread : session.files.read target.path with
  | error e => exact ⟨_, .unreadable hread⟩
  | ok t =>
      cases hedit : editAt settings.locator t target.position target.picked settings.policy with
      | error e => exact ⟨_, .missed hread (editAt_eq_error_iff.mp hedit).2⟩
      | ok new =>
          obtain ⟨call, hfirst, hnew⟩ := editAt_eq_ok_iff.mp hedit
          cases hdryRun : target.dryRun with
          | true => exact ⟨_, .shown hread hfirst hnew hdryRun⟩
          | false =>
              rcases hwrite : session.files.write target.path new with ⟨result, files⟩
              cases result with
              | ok written => exact ⟨_, .written hread hfirst hnew hdryRun hwrite⟩
              | error e => exact ⟨_, .refused hread hfirst hnew hdryRun hwrite⟩

/-- An edit at a position fails exactly if no call that was found is touched there, and that is what
it says. Otherwise the first one that is touched is rewritten, and nothing else. A run that sets a
color ends accordingly: it never finds that the text has changed since its own scan. -/
theorem edit_fits_its_own_scan (locator : Locator) (t : Text) (p : Position)
    (picked : PickedColor) (policy : AlphaPolicy) (session : Session) (settings : Settings)
    (target : SetTarget) :
    let found := (locator.findAll t).found
    (∀ e, editAt locator t p picked policy = .error e ↔
      e = .noColorAt p ∧ ∀ call ∈ found, ¬ call.Touched p) ∧
    (∀ new, editAt locator t p picked policy = .ok new ↔
      ∃ call, FirstTouched found p call ∧ call.Rewritten locator.codec picked policy t new) ∧
    ∀ outcome, SetEnds session settings target outcome ↔
      outcome = runSet session settings target := by
  refine ⟨fun e => editAt_eq_error_iff, fun new => editAt_eq_ok_iff, fun outcome => ?_⟩
  constructor
  · exact SetEnds.eq_runSet
  · intro h
    rw [h]
    exact setEnds_runSet session settings target

end Program

end ColorCalls
