import ColorCalls.Proofs.Codec.Grammar
import ColorCalls.Proofs.Codec.Notices
import ColorCalls.Settings

/-! The entries of a list of color names, read one after the other by a codec that knows no names.
An entry that gives a name a color goes into the table, and any other is warned of and leaves the
table as it is (`cases_entry`). Over a whole list, the table is the first one with what the entries
give in their order, and there is one warning for each entry that gives nothing (`foldl_entry`). -/

namespace ColorCalls

namespace ColorNames

def insertAll (names : ColorNames) (entries : List (Text × Rgb)) : ColorNames :=
  entries.foldl (fun names entry => names.insert entry.1 entry.2) names

theorem get?_insertAll_of_notMem {name : Text} {entries : List (Text × Rgb)}
    (h : name ∉ entries.map Prod.fst) (names : ColorNames) :
    (names.insertAll entries).get? name = names.get? name := by
  induction entries generalizing names with
  | nil => rfl
  | cons entry entries ih =>
      rw [List.map_cons, List.mem_cons, not_or] at h
      have hrest := ih h.2 (names.insert entry.1 entry.2)
      rw [get?_insert, if_neg (Ne.symm h.1)] at hrest
      exact hrest

theorem get?_insertAll_of_last {name : Text} {color : Rgb} {front back : List (Text × Rgb)}
    (h : name ∉ back.map Prod.fst) (names : ColorNames) :
    (names.insertAll (front ++ (name, color) :: back)).get? name = some color := by
  have hsplit : names.insertAll (front ++ (name, color) :: back) =
      ((names.insertAll front).insert name color).insertAll back := List.foldl_append
  rw [hsplit, get?_insertAll_of_notMem h, get?_insert, if_pos rfl]

end ColorNames

namespace Settings

/-- The entry gives the name the color: they stand on the two sides of the first `=`. The color
stands there as in the arguments of a call, but without quotes if it is hexadecimal. -/
inductive GivesColor : Text → Text → Rgb → Prop where
  | intro {before after : Text} {c : Channels} {encoding : Encoding} (hbefore : '=' ∉ before)
      (hcolor : Arguments.Denotes .empty (entryArguments (Text.trim after)) c encoding) :
      GivesColor (before ++ '=' :: after) (Text.trim before) c.toRgb

def namedColor? (entry : Text) : Option (Text × Rgb) :=
  match Text.splitFirst? '=' entry with
  | none => none
  | some (name, color) =>
      match Arguments.read .empty (entryArguments (Text.trim color)) with
      | .ok color => some (Text.trim name, color.toRgb)
      | .error _ => none

theorem trim_entryArguments_trim (color : Text) :
    Text.trim (entryArguments (Text.trim color)) = entryArguments (Text.trim color) := by
  rw [entryArguments]
  split
  · exact (Text.IsTrimmed.enclosed (by decide) (Text.trim color)).trim_eq
  · exact Text.trim_trim color

theorem namedColor?_eq_none_of_notMem {entry : Text} (h : '=' ∉ entry) : namedColor? entry = none := by
  rw [namedColor?, Text.splitFirst?_eq_none_iff.mpr h]

theorem namedColor?_append {before : Text} (hbefore : '=' ∉ before) (after : Text) :
    namedColor? (before ++ '=' :: after) =
      match Arguments.read .empty (entryArguments (Text.trim after)) with
      | .ok color => some (Text.trim before, color.toRgb)
      | .error _ => none := by
  rw [namedColor?, Text.splitFirst?_append hbefore]

theorem namedColor?_eq_some_iff {entry name : Text} {rgb : Rgb} :
    namedColor? entry = some (name, rgb) ↔ GivesColor entry name rgb := by
  constructor
  · intro h
    rw [namedColor?] at h
    split at h
    · contradiction
    · rename_i before after hsplit
      split at h
      · rename_i color hread
        cases h
        obtain ⟨rfl, hbefore⟩ := Text.splitFirst?_eq_some_iff.mp hsplit
        exact .intro hbefore (Arguments.read_eq_ok_iff.mp hread).1
      · contradiction
  · rintro ⟨hbefore, hcolor⟩
    rename_i before after c encoding
    have hread : Arguments.read .empty (entryArguments (Text.trim after)) =
        .ok { toChannels := c, encoding, source := entryArguments (Text.trim after) } :=
      Arguments.read_eq_ok_iff.mpr ⟨hcolor, rfl⟩
    rw [namedColor?_append hbefore, hread]

theorem namedColor?_trim (entry : Text) : namedColor? (Text.trim entry) = namedColor? entry := by
  by_cases hmem : '=' ∈ entry
  · obtain ⟨before, after, rfl, hbefore⟩ := List.eq_append_cons_of_mem hmem
    have hstart : '=' ∉ Text.trimStart before :=
      fun h => hbefore ((List.dropWhile_suffix Text.isBlank).subset h)
    rw [Text.trim_append_cons (by decide), namedColor?_append hstart, namedColor?_append hbefore,
      Text.trim_trimStart, Text.trim_trimEnd]
  · have htrim : '=' ∉ Text.trim entry := fun h => hmem (Text.trim_subset entry h)
    rw [namedColor?_eq_none_of_notMem htrim, namedColor?_eq_none_of_notMem hmem]

def IsMalformedEntry (entry : Text) : Prop := ∀ name rgb, ¬ GivesColor entry name rgb

theorem isMalformedEntry_iff {entry : Text} :
    IsMalformedEntry entry ↔ namedColor? entry = none := by
  simp only [IsMalformedEntry, ← namedColor?_eq_some_iff, Option.eq_none_iff_forall_ne_some,
    Prod.forall, ne_eq]

instance : DecidablePred IsMalformedEntry := fun _ => decidable_of_iff _ isMalformedEntry_iff.symm

/-- The table after the entries, of which the malformed ones might as well not be there. -/
inductive Tabulates : ColorNames → List Text → ColorNames → Prop where
  | done (names : ColorNames) : Tabulates names [] names
  | given {names final : ColorNames} {entry name : Text} {rgb : Rgb} {entries : List Text}
      (h : GivesColor entry name rgb) (rest : Tabulates (names.insert name rgb) entries final) :
      Tabulates names (entry :: entries) final
  | malformed {names final : ColorNames} {entry : Text} {entries : List Text}
      (h : IsMalformedEntry entry) (rest : Tabulates names entries final) :
      Tabulates names (entry :: entries) final

theorem tabulates_insertAll (names : ColorNames) (entries : List Text) :
    Tabulates names entries (names.insertAll (entries.filterMap namedColor?)) := by
  induction entries generalizing names with
  | nil => exact .done names
  | cons entry entries ih =>
      cases hentry : namedColor? entry with
      | none =>
          rw [List.filterMap_cons_none hentry]
          exact .malformed (isMalformedEntry_iff.mpr hentry) (ih names)
      | some given =>
          rw [List.filterMap_cons_some hentry]
          exact .given (namedColor?_eq_some_iff.mp hentry) (ih (names.insert given.1 given.2))

theorem names_codec_entry (read : NamesRead) (entry : Text) :
    (read.entry entry).codec.names = read.codec.names := by
  rw [NamesRead.entry]
  cases Text.splitFirst? '=' entry with
  | none => rfl
  | some parts =>
      obtain ⟨name, color⟩ := parts
      have hnames := Codec.names_parse read.codec (entryArguments (Text.trim color))
      dsimp only
      cases (read.codec.parse (entryArguments (Text.trim color))).result with
      | ok color => exact hnames
      | error rejection => exact hnames

def warnings (notices : List Notice) : Nat := notices.countP fun n => n.level = .warn

@[simp] theorem warnings_append (before after : List Notice) :
    warnings (before ++ after) = warnings before + warnings after :=
  List.countP_append

theorem cases_entry {read : NamesRead} (hread : read.codec.names = .empty) (entry : Text) :
    (∃ name rgb, namedColor? entry = some (name, rgb) ∧
      (read.entry entry).names = read.names.insert name rgb ∧
      warnings (read.entry entry).notices = warnings read.notices) ∨
    (namedColor? entry = none ∧ (read.entry entry).names = read.names ∧
      warnings (read.entry entry).notices = warnings read.notices + 1) := by
  rw [NamesRead.entry, namedColor?]
  cases hsplit : Text.splitFirst? '=' entry with
  | none =>
      refine .inr ⟨rfl, rfl, ?_⟩
      rw [warnings_append]
      rfl
  | some parts =>
      obtain ⟨name, color⟩ := parts
      have hresult := Codec.result_parse read.codec (entryArguments (Text.trim color))
      rw [hread, trim_entryArguments_trim] at hresult
      dsimp only
      rw [← hresult]
      cases hparsed : (read.codec.parse (entryArguments (Text.trim color))).result with
      | ok value =>
          refine .inl ⟨_, _, rfl, rfl, ?_⟩
          rw [warnings_append, Codec.notices_parse_of_result_eq_ok hparsed]
          rfl
      | error rejection =>
          have hquiet : warnings (read.codec.parse (entryArguments (Text.trim color))).notices =
              0 := by
            rw [warnings, List.countP_eq_zero]
            intro n hn
            rw [(Codec.ruleNoticed_parse hparsed).level_eq_trace n hn]
            decide
          refine .inr ⟨rfl, rfl, ?_⟩
          rw [warnings_append, warnings_append, hquiet]
          rfl

theorem foldl_entry {read : NamesRead} (hread : read.codec.names = .empty)
    (entries : List Text) :
    (entries.foldl NamesRead.entry read).names =
        read.names.insertAll (entries.filterMap namedColor?) ∧
      warnings (entries.foldl NamesRead.entry read).notices =
        warnings read.notices + entries.countP fun entry => IsMalformedEntry entry := by
  induction entries generalizing read with
  | nil => exact ⟨rfl, rfl⟩
  | cons entry entries ih =>
      have hnext : (read.entry entry).codec.names = .empty :=
        (names_codec_entry read entry).trans hread
      obtain ⟨hnames, hwarnings⟩ := ih hnext
      rw [List.foldl_cons, hnames, hwarnings]
      rcases cases_entry hread entry with ⟨name, rgb, hentry, htable, htold⟩ |
        ⟨hentry, htable, htold⟩
      · have hgood : ¬ IsMalformedEntry entry := by
          rw [isMalformedEntry_iff, hentry]
          exact nofun
        rw [htable, htold, List.filterMap_cons_some hentry,
          List.countP_cons_of_neg (by simpa using hgood)]
        exact ⟨rfl, rfl⟩
      · have hbad : IsMalformedEntry entry := isMalformedEntry_iff.mpr hentry
        rw [htable, htold, List.filterMap_cons_none hentry,
          List.countP_cons_of_pos (by simpa using hbad)]
        refine ⟨rfl, ?_⟩
        omega

def entriesOf (value : Option Text) : List Text := value.elim [] nameEntries

theorem namesFrom_eq (first : ColorNames) (value : Option Text) :
    (namesFrom first value).1 = first.insertAll ((entriesOf value).filterMap namedColor?) ∧
      warnings (namesFrom first value).2 =
        (entriesOf value).countP fun entry => IsMalformedEntry entry := by
  cases value with
  | none => exact ⟨rfl, rfl⟩
  | some value =>
      obtain ⟨hnames, hwarnings⟩ :=
        foldl_entry (show ({ names := first } : NamesRead).codec.names = .empty from rfl)
          (nameEntries value)
      refine ⟨hnames, hwarnings.trans ?_⟩
      rw [show warnings ({ names := first } : NamesRead).notices = 0 from rfl, Nat.zero_add]
      rfl

end Settings

end ColorCalls
