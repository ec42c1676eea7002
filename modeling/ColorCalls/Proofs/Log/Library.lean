import ColorCalls.Proofs.Codec.Requests
import ColorCalls.Proofs.Log.Line
import ColorCalls.Proofs.Position
import ColorCalls.Proofs.Settings.Entries

/-! What the library logs about its work. Most texts that it is given are quoted in its messages. A
few stand there as they are, and by these a message can take more than one line. -/

namespace ColorCalls

theorem ColumnUnit.lineFeed_mem_invalid_iff (t : Text) : '\n' ∈ invalid t ↔ '\n' ∈ t := by
  unfold invalid
  simp (disch := decide +kernel) only [List.mem_append, or_iff_right, or_iff_left]

theorem Arguments.Rule.lineFeed_notMem_name (rule : Rule) : '\n' ∉ rule.name := by
  cases rule <;> decide

/-- The text that the message of a rejection shows as it stands. -/
def Rejection.shown : Rejection → Text
  | .notAnInteger text | .outOfRange text | .unknownName text | .hexDigit text
  | .unrecognized text => text
  | .empty | .arity _ | .hexLength _ => []

theorem Rejection.lineFeed_mem_message_iff (r : Rejection) :
    '\n' ∈ r.message ↔ '\n' ∈ r.shown := by
  unfold message shown
  cases r with
  | empty => decide
  | _ =>
      simp (disch := decide) only [List.mem_append, or_iff_right, Text.lineFeed_notMem_decimal,
        List.not_mem_nil]

namespace Notice

def shown : Notice → Text
  | .ruleRejected _ _ rejection | .callSkipped _ _ rejection
  | .nameColorIgnored _ rejection => rejection.shown
  | .scanned _ text _ | .lockRecovered text | .switchIgnored text _ | .columnsIgnored text
  | .sourceScanned text _ => text
  | .replacing .. | .calleeIgnored | .swatchWidthIgnored .. | .nameEntryIgnored _
  | .switchedOff => []

theorem lineFeed_mem_message_iff (n : Notice) : '\n' ∈ n.message ↔ '\n' ∈ n.shown := by
  unfold message shown
  cases n with
  | calleeIgnored | switchedOff => decide
  | nameEntryIgnored entry =>
      simp (disch := decide) only [List.mem_append, or_iff_right, Text.lineFeed_notMem_quoted]
      decide
  | _ =>
      simp (disch := decide +kernel) only [Rejection.lineFeed_mem_message_iff,
        ColumnUnit.lineFeed_mem_invalid_iff, Position.lineFeed_notMem_display,
        Arguments.Rule.lineFeed_notMem_name, Text.lineFeed_notMem_decimal,
        Text.lineFeed_notMem_quoted, List.mem_append, or_iff_right, or_iff_left,
        List.not_mem_nil]

theorem lineFeed_notMem_target (n : Notice) : '\n' ∉ n.target := by
  unfold target
  cases n <;> dsimp only <;> decide +kernel

end Notice

def SpanLines (notices : List Notice) : Prop := ∃ n ∈ notices, '\n' ∈ n.message

namespace SpanLines

@[simp] theorem nil : ¬ SpanLines [] := by
  simp [SpanLines]

@[simp] theorem cons_iff (n : Notice) (notices : List Notice) :
    SpanLines (n :: notices) ↔ '\n' ∈ n.shown ∨ SpanLines notices := by
  simp [SpanLines, Notice.lineFeed_mem_message_iff]

@[simp] theorem append_iff (before after : List Notice) :
    SpanLines (before ++ after) ↔ SpanLines before ∨ SpanLines after := by
  simp [SpanLines, or_and_right, exists_or]

end SpanLines

/-- The text that is shown of a rejected argument text; none of one that is read. -/
def Arguments.shown (names : ColorNames) (text : Text) : Text :=
  match read names (Text.trim text) with
  | .ok _ => []
  | .error rejection => rejection.shown

namespace Codec

/-- Whether a reading is noticed: the text is not remembered, and some rule is there for it. -/
def Notices (codec : Codec) (text : Text) : Prop :=
  codec.recent.get? (Text.trim text) = none ∧ (Arguments.rule? (Text.trim text)).isSome

theorem spanLines_parse_iff (codec : Codec) (text : Text) :
    SpanLines (codec.parse text).notices ↔
      codec.Notices text ∧ '\n' ∈ Arguments.shown codec.names text := by
  cases hrecent : codec.recent.get? (Text.trim text) with
  | some reading => simp [parse_of_get?_eq_some hrecent, Notices, hrecent]
  | none =>
      rw [parse_of_get?_eq_none hrecent]
      dsimp only
      cases hread : Arguments.read codec.names (Text.trim text) with
      | ok color => simp [firstNotices, Arguments.shown, hread]
      | error rejection =>
          cases hrule : Arguments.rule? (Text.trim text) with
          | none => simp [firstNotices, Notices, hrule]
          | some rule =>
              simp [firstNotices, Notices, Notice.shown, Arguments.shown, hrecent, hrule, hread]

variable {codec : Codec} {text : Text}

theorem shown_of_result_eq_ok {color : Color} (h : (codec.parse text).result = .ok color) :
    Arguments.shown codec.names text = [] := by
  rw [Arguments.shown, ← result_parse, h]

theorem shown_of_result_eq_error {rejection : Rejection}
    (h : (codec.parse text).result = .error rejection) :
    Arguments.shown codec.names text = rejection.shown := by
  rw [Arguments.shown, ← result_parse, h]

theorem not_spanLines_parse {color : Color} (h : (codec.parse text).result = .ok color) :
    ¬ SpanLines (codec.parse text).notices := by
  simp [spanLines_parse_iff, shown_of_result_eq_ok h]

theorem spanLines_parse_append_iff {rejection : Rejection} {n : Notice}
    (h : (codec.parse text).result = .error rejection) (hn : n.shown = rejection.shown)
    (others : List Notice) :
    SpanLines ((codec.parse text).notices ++ n :: others) ↔
      '\n' ∈ Arguments.shown codec.names text ∨ SpanLines others := by
  rw [SpanLines.append_iff, SpanLines.cons_iff, spanLines_parse_iff, hn,
    shown_of_result_eq_error h, or_iff_right_of_imp]
  exact fun hfirst => Or.inl hfirst.2

end Codec

theorem exists_cons_eq_append {α : Type} {a : α} {as : List α} {p : List α → α → Prop} :
    (∃ front b back, a :: as = front ++ b :: back ∧ p front b) ↔
      p [] a ∨ ∃ front b back, as = front ++ b :: back ∧ p (a :: front) b := by
  constructor
  · rintro ⟨front, b, back, heq, hp⟩
    cases front with
    | nil =>
        cases heq
        exact Or.inl hp
    | cons c front =>
        cases heq
        exact Or.inr ⟨front, b, back, rfl, hp⟩
  · rintro (hp | ⟨front, b, back, rfl, hp⟩)
    · exact ⟨[], a, as, rfl, hp⟩
    · exact ⟨a :: front, b, back, rfl, hp⟩

namespace Locator

def accepts (names : ColorNames) (call : Call) : Bool :=
  (Arguments.read names (Text.trim call.arguments)).isOk

/-- The calls that are read are those with less than `limit` colors before them. -/
theorem spanLines_readCallsUpTo_iff (locator : Locator) (t : Text) (limit : Nat)
    (calls : List Call) :
    SpanLines (locator.readCallsUpTo t limit calls).notices ↔
      ∃ front call back, calls = front ++ call :: back ∧
        front.countP (accepts locator.codec.names) < limit ∧
        '\n' ∈ Arguments.shown locator.codec.names call.arguments := by
  induction calls generalizing locator limit with
  | nil => cases limit <;> simp [readCallsUpTo]
  | cons call calls ih =>
      cases limit with
      | zero => simp [readCallsUpTo]
      | succ limit =>
          have hnames : (locator.remembering (locator.codec.parse call.arguments)).codec.names =
              locator.codec.names := Codec.names_parse locator.codec call.arguments
          rw [exists_cons_eq_append, readCallsUpTo]
          cases hread : (locator.codec.parse call.arguments).result with
          | ok color =>
              have haccepts : accepts locator.codec.names call = true := by
                rw [accepts, ← Codec.result_parse, hread]
                rfl
              simp [ih, hnames, Codec.not_spanLines_parse hread, haccepts,
                Codec.shown_of_result_eq_ok hread]
          | error rejection =>
              have haccepts : accepts locator.codec.names call = false := by
                rw [accepts, ← Codec.result_parse, hread]
                rfl
              dsimp only
              rw [Codec.spanLines_parse_append_iff hread rfl, ih, hnames]
              simp [haccepts]

theorem spanLines_findAll_iff (locator : Locator) (t : Text) :
    SpanLines (locator.findAll t).notices ↔
      '\n' ∈ locator.codec.callee ∨ ∃ call ∈ Call.list locator.codec.callee t,
        '\n' ∈ Arguments.shown locator.codec.names call.arguments := by
  rw [findAll, readCalls_eq_readCallsUpTo locator t (Nat.le_refl _)]
  simp only [SpanLines.append_iff, SpanLines.cons_iff, SpanLines.nil, or_false, Notice.shown,
    spanLines_readCallsUpTo_iff]
  rw [or_comm]
  refine or_congr_right ⟨?_, ?_⟩
  · rintro ⟨front, call, back, hcalls, -, hshown⟩
    exact ⟨call, hcalls ▸ List.mem_append_right front List.mem_cons_self, hshown⟩
  · rintro ⟨call, hcall, hshown⟩
    obtain ⟨front, back, hcalls⟩ := List.append_of_mem hcall
    refine ⟨front, call, back, hcalls, ?_, hshown⟩
    have hle := front.countP_le_length (p := accepts locator.codec.names)
    rw [hcalls, List.length_append, List.length_cons]
    omega

end Locator

namespace Settings

theorem not_spanLines_switchFrom {variableName : Text} (hname : '\n' ∉ variableName)
    (first : Bool) (value : Option Text) : ¬ SpanLines (switchFrom variableName first value).2 := by
  cases value with
  | none => exact SpanLines.nil
  | some value =>
      rw [switchFrom]
      cases switch? value with
      | some on => exact SpanLines.nil
      | none => simpa [Notice.shown] using hname

theorem not_spanLines_calleeFrom (first : Text) (value : Option Text) :
    ¬ SpanLines (calleeFrom first value).2 := by
  cases value with
  | none => exact SpanLines.nil
  | some value =>
      rw [calleeFrom]
      by_cases hblank : Text.trim value = []
      · simp [hblank, Notice.shown]
      · simp [hblank]

theorem spanLines_unitFrom_iff (first : ColumnUnit) (value : Option Text) :
    SpanLines (unitFrom first value).2 ↔
      ∃ t, value = some t ∧ ColumnUnit.ofText? t = none ∧ '\n' ∈ t := by
  cases value with
  | none => simp [unitFrom]
  | some t =>
      cases hunit : ColumnUnit.ofText? t with
      | some unit => simp [unitFrom, hunit]
      | none => simp [unitFrom, hunit, Notice.shown]

theorem not_spanLines_swatchWidthFrom (first : Nat) (value : Option Text) :
    ¬ SpanLines (swatchWidthFrom first value).2 := by
  cases value with
  | none => exact SpanLines.nil
  | some value =>
      rw [swatchWidthFrom]
      cases (Text.word? (Text.trim value)).filter (· ≤ widestSwatch) with
      | some width => exact SpanLines.nil
      | none => simp [Notice.shown]

/-- Whether the color of an entry is rejected in words that show a line feed. -/
def EntrySpansLines (entry : Text) : Prop :=
  ∃ name color, Text.splitFirst? '=' entry = some (name, color) ∧
    '\n' ∈ Arguments.shown .empty (entryArguments (Text.trim color))

theorem spanLines_entry_iff {read : NamesRead} (hread : read.codec.names = .empty)
    (entry : Text) :
    SpanLines (read.entry entry).notices ↔
      SpanLines read.notices ∨ EntrySpansLines entry := by
  rw [NamesRead.entry, EntrySpansLines]
  cases hsplit : Text.splitFirst? '=' entry with
  | none => simp [Notice.shown]
  | some parts =>
      obtain ⟨name, color⟩ := parts
      dsimp only
      cases hparsed : (read.codec.parse (entryArguments (Text.trim color))).result with
      | ok rgb =>
          have hshown := Codec.shown_of_result_eq_ok hparsed
          rw [hread] at hshown
          simp [Codec.not_spanLines_parse hparsed, hshown]
      | error rejection =>
          dsimp only
          rw [List.append_assoc, SpanLines.append_iff,
            Codec.spanLines_parse_append_iff hparsed rfl, hread]
          simp

theorem spanLines_foldl_entry_iff {read : NamesRead} (hread : read.codec.names = .empty)
    (entries : List Text) :
    SpanLines (entries.foldl NamesRead.entry read).notices ↔
      SpanLines read.notices ∨ ∃ entry ∈ entries, EntrySpansLines entry := by
  induction entries generalizing read with
  | nil => simp
  | cons entry entries ih =>
      have hnext : (read.entry entry).codec.names = .empty :=
        (names_codec_entry read entry).trans hread
      rw [List.foldl_cons, ih hnext, spanLines_entry_iff hread]
      simp [or_assoc]

theorem spanLines_namesFrom_iff (first : ColorNames) (value : Option Text) :
    SpanLines (namesFrom first value).2 ↔
      ∃ t, value = some t ∧ ∃ entry ∈ nameEntries t, EntrySpansLines entry := by
  cases value with
  | none => simp [namesFrom]
  | some t =>
      rw [namesFrom, spanLines_foldl_entry_iff rfl]
      simp

theorem spanLines_ofEnvironment_iff (env : Environment) :
    SpanLines (ofEnvironment env).2 ↔
      (∃ t, env "QCOLOR_LENS_COLUMNS" = some t ∧ ColumnUnit.ofText? t = none ∧ '\n' ∈ t) ∨
        ∃ t, env "QCOLOR_LENS_NAMED" = some t ∧ ∃ entry ∈ nameEntries t, EntrySpansLines entry := by
  have henabled := not_spanLines_switchFrom
    (show '\n' ∉ ("QCOLOR_LENS_ENABLED" : Text) by decide +kernel) true
    (env "QCOLOR_LENS_ENABLED")
  have hpromote := not_spanLines_switchFrom
    (show '\n' ∉ ("QCOLOR_LENS_PROMOTE_ALPHA" : Text) by decide +kernel) false
    (env "QCOLOR_LENS_PROMOTE_ALPHA")
  simp only [ofEnvironment, SpanLines.append_iff, henabled, hpromote, not_spanLines_calleeFrom,
    not_spanLines_swatchWidthFrom, spanLines_unitFrom_iff, spanLines_namesFrom_iff, false_or,
    or_false]

end Settings

inductive Job where
  | parse (codec : Codec) (text : Text)
  | scan (locator : Locator) (t : Text)
  /-- A scan that ends with the given number of colors. -/
  | scanFirst (locator : Locator) (t : Text) (limit : Nat)
  | edit (codec : Codec) (call : ColorCall) (picked : PickedColor) (policy : AlphaPolicy)
  | configure (env : Environment)

namespace Job

def notices : Job → List Notice
  | .parse codec text => (codec.parse text).notices
  | .scan locator t => (locator.findAll t).notices
  | .scanFirst locator t limit => (locator.findFirst t limit).notices
  | .edit codec call picked policy => [(planEdit codec call picked policy).notice]
  | .configure env => (Settings.ofEnvironment env).2

/-- Whether a text with a line feed is shown as it stands: a part of a rejected argument text, the
callee of a whole scan, or the name of no column unit. -/
def ShowsLineFeed : Job → Prop
  | .parse codec text => codec.Notices text ∧ '\n' ∈ Arguments.shown codec.names text
  | .scan locator t =>
      '\n' ∈ locator.codec.callee ∨ ∃ call ∈ Call.list locator.codec.callee t,
        '\n' ∈ Arguments.shown locator.codec.names call.arguments
  | .scanFirst locator t limit =>
      ∃ front call back, Call.list locator.codec.callee t = front ++ call :: back ∧
        front.countP (Locator.accepts locator.codec.names) < limit ∧
        '\n' ∈ Arguments.shown locator.codec.names call.arguments
  | .edit .. => False
  | .configure env =>
      (∃ t, env "QCOLOR_LENS_COLUMNS" = some t ∧ ColumnUnit.ofText? t = none ∧ '\n' ∈ t) ∨
        ∃ t, env "QCOLOR_LENS_NAMED" = some t ∧
          ∃ entry ∈ Settings.nameEntries t, Settings.EntrySpansLines entry

theorem spanLines_notices_iff (job : Job) : SpanLines job.notices ↔ job.ShowsLineFeed := by
  cases job with
  | parse codec text => exact codec.spanLines_parse_iff text
  | scan locator t => exact locator.spanLines_findAll_iff t
  | scanFirst locator t limit => exact locator.spanLines_readCallsUpTo_iff t limit _
  | edit codec call picked policy =>
      simp [notices, ShowsLineFeed, Replacement.notice, Notice.shown]
  | configure env => exact Settings.spanLines_ofEnvironment_iff env

/-- The messages of a job stay on one line each unless it shows a text with a line feed as it
stands. A logger whose time format writes no line feed writes as many lines as records that it lets
through, provided that the messages of these stay on one line each, and more lines otherwise. -/
theorem one_line_for_each_record_iff (job : Job) :
    ((∀ n ∈ job.notices, '\n' ∉ n.record.message) ↔ ¬ job.ShowsLineFeed) ∧
      ∀ (logger : Logger) (last : Option Text) (entries : List (Moment × Notice)),
        (∀ text, .literal text ∈ logger.timeFormat → '\n' ∉ text) →
        entries.map Prod.snd = job.notices →
        let written := logger.writeAll last
          (entries.map fun entry => (logger.timeFormat.write entry.1, entry.2.record))
        (written.flatten.count '\n' = job.notices.countP fun n => logger.enabled n.record.level) ↔
          ∀ n ∈ job.notices, logger.enabled n.record.level → '\n' ∉ n.record.message := by
  constructor
  · rw [← spanLines_notices_iff]
    simp [SpanLines, Notice.record]
  · intro logger last entries hformat hentries written
    have htimes (m : Moment) : '\n' ∉ logger.timeFormat.write m := by
      intro hmem
      obtain ⟨text, htext, hfeed⟩ := (TimeFormat.lineFeed_mem_write_iff _ m).mp hmem
      exact hformat text htext hfeed
    have htargets : ∀ entry ∈
        entries.map fun entry => (logger.timeFormat.write entry.1, entry.2.record),
        '\n' ∉ entry.2.target := by
      rw [List.forall_mem_map]
      exact fun entry _ => entry.2.lineFeed_notMem_target
    have hcount := Logger.count_writeAll_eq_iff logger last
      (List.forall_mem_map.mpr fun entry _ => htimes entry.1) htargets
    rw [List.countP_map, List.forall_mem_map] at hcount
    rw [← hentries, List.countP_map, List.forall_mem_map]
    exact hcount

theorem scan_spans_lines :
    ¬ ∀ job : Job, ∀ n ∈ job.notices, '\n' ∉ n.record.message := by
  intro h
  have hscan := h (.scan {} "QColor(1, 2, a\nb)")
  revert hscan
  decide +kernel

end Job

end ColorCalls
