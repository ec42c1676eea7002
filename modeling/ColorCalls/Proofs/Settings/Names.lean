import ColorCalls.Proofs.Settings.Entries
import Mathlib.Data.List.Forall2

/-! Color names handed over in the environment. However the entries are written, with white space
around their parts, blank entries and malformed ones among them, a codec reads each name as the
color that it is given last, and every other name as before (`names_survive_environment`). -/

namespace ColorCalls

namespace Arguments

theorem notMem_of_channels {t r g b : Text} {rgb : Rgb} (tokens : t.splitOn ',' = [r, g, b])
    (red : IsChannel r rgb.red) (green : IsChannel g rgb.green) (blue : IsChannel b rgb.blue)
    {c : Char} (hblank : Text.isBlank c = false) (hdigit : c.isDigit = false)
    (hsign : c ∉ [',', '+', '-']) : c ∉ t := by
  have hchannel {token : Text} {n : UInt8} (h : IsChannel token n) : c ∉ token := by
    intro hmem
    have hnumeral := h.isDigit_or_of_mem (Text.mem_trim_of_mem hmem hblank)
    simp only [List.mem_cons, List.not_mem_nil, or_false, not_or] at hsign
    simp [hdigit, hsign] at hnumeral
  have ht : [','].intercalate (t.splitOn ',') = t := List.intercalate_splitOn ','
  rw [← ht, tokens]
  simp only [List.mem_cons, not_or] at hsign
  simp [List.intercalate, hchannel red, hchannel green, hchannel blue, hsign.1]

end Arguments

theorem Text.hexDigitValue?_of_isBlank {c : Char} (h : isBlank c = true) :
    hexDigitValue? c = none := by
  have hall : ∀ m < 16, isBlank (Nat.digitChar m) = false ∧
      isBlank (Nat.digitChar m).toUpper = false := by decide
  rw [Option.eq_none_iff_forall_ne_some]
  intro n hn
  obtain ⟨hlt, rfl | rfl⟩ := hexDigitValue?_eq_some_iff.mp hn
  · simp [hall n hlt] at h
  · simp [hall n hlt] at h

namespace Settings

structure IsName (name : Text) : Prop where
  isTrimmed : Text.IsTrimmed name
  semicolon : ';' ∉ name
  equals : '=' ∉ name
  comma : ',' ∉ name
  hash : name.head? ≠ some '#'

inductive IsEntryColor : Text → Rgb → Prop where
  | hex {digits : Text} {rgb : Rgb} (hlength : digits.length = 6)
      (hdigits : Arguments.IsHexColor digits { toRgb := rgb }) : IsEntryColor ('#' :: digits) rgb
  | channels {t r g b : Text} {rgb : Rgb} (htrimmed : Text.IsTrimmed t)
      (tokens : t.splitOn ',' = [r, g, b]) (red : Arguments.IsChannel r rgb.red)
      (green : Arguments.IsChannel g rgb.green) (blue : Arguments.IsChannel b rgb.blue) :
      IsEntryColor t rgb

/-- The text of an entry between two semicolons, with the name and the color that it gives. -/
inductive EntryText : Text → Option (Text × Rgb) → Prop where
  | named {before name after left color right : Text} {rgb : Rgb} (hname : IsName name)
      (hcolor : IsEntryColor color rgb) (hbefore : Text.AllBlank before)
      (hafter : Text.AllBlank after) (hleft : Text.AllBlank left) (hright : Text.AllBlank right) :
      EntryText (before ++ name ++ after ++ '=' :: (left ++ color ++ right)) (some (name, rgb))
  | blank {text : Text} (h : Text.AllBlank text) : EntryText text none
  | unassigned {text : Text} (hsemicolon : ';' ∉ text) (hequals : '=' ∉ text) :
      EntryText text none
  | rejected {name color : Text} {rejection : Rejection} (hequals : '=' ∉ name)
      (hsemicolon : ';' ∉ name ++ color)
      (h : (Codec.parse { names := .empty } (entryArguments (Text.trim color))).result =
        .error rejection) : EntryText (name ++ '=' :: color) none

namespace IsEntryColor

variable {color : Text} {rgb : Rgb}

theorem isTrimmed (h : IsEntryColor color rgb) : Text.IsTrimmed color := by
  cases h with
  | hex _ hdigits =>
      apply Text.IsTrimmed.of_forall
      intro c hc
      by_contra hblank
      rw [Bool.not_eq_false] at hblank
      rcases List.mem_cons.mp hc with rfl | hc
      · contradiction
      · exact Arguments.notMem_of_isHexColor (Text.hexDigitValue?_of_isBlank hblank) hdigits hc
  | channels htrimmed => exact htrimmed

theorem semicolon_notMem (h : IsEntryColor color rgb) : ';' ∉ color := by
  cases h with
  | hex _ hdigits => simpa using Arguments.notMem_of_isHexColor rfl hdigits
  | channels _ tokens red green blue =>
      exact Arguments.notMem_of_channels tokens red green blue (by decide) (by decide) (by decide)

theorem exists_denotes (h : IsEntryColor color rgb) (names : ColorNames) :
    ∃ encoding, Arguments.Denotes names (entryArguments color) { toRgb := rgb } encoding := by
  cases h with
  | hex _ hdigits => exact ⟨.hex, .hex (.inl rfl) hdigits⟩
  | channels _ tokens red green blue =>
      have hhash : color.head? ≠ some '#' := by
        intro hhead
        exact Arguments.notMem_of_channels tokens red green blue (by decide) (by decide)
          (by decide) (List.mem_of_mem_head? hhead)
      rw [entryArguments, if_neg hhash]
      exact ⟨.triple, .triple tokens red green blue rfl⟩

end IsEntryColor

namespace EntryText

variable {text : Text} {entry : Option (Text × Rgb)}

theorem semicolon_notMem (h : EntryText text entry) : ';' ∉ text := by
  have hblanks {blanks : Text} (hblanks : Text.AllBlank blanks) : ';' ∉ blanks :=
    fun hmem => absurd (hblanks _ hmem) (by decide)
  cases h with
  | named hname hcolor hbefore hafter hleft hright =>
      simp [hname.semicolon, hcolor.semicolon_notMem, hblanks hbefore, hblanks hafter,
        hblanks hleft, hblanks hright]
  | blank h => exact hblanks h
  | unassigned hsemicolon => exact hsemicolon
  | rejected _ hsemicolon =>
      rw [List.mem_append, not_or] at hsemicolon
      simp [hsemicolon]

theorem namedColor?_eq (h : EntryText text entry) : namedColor? text = entry := by
  have hblanks {blanks : Text} (hblanks : Text.AllBlank blanks) : '=' ∉ blanks :=
    fun hmem => absurd (hblanks _ hmem) (by decide)
  cases h with
  | @named before name after left color right rgb hname hcolor hbefore hafter hleft hright =>
      obtain ⟨encoding, hdenotes⟩ := hcolor.exists_denotes .empty
      have hleftSide : '=' ∉ before ++ name ++ after := by
        simp [hname.equals, hblanks hbefore, hblanks hafter]
      have hnameTrim : Text.trim (before ++ name ++ after) = name := by
        rw [Text.trim_append_of_allBlank hbefore hafter, hname.isTrimmed.trim_eq]
      have hcolorTrim : Text.trim (left ++ color ++ right) = color := by
        rw [Text.trim_append_of_allBlank hleft hright, hcolor.isTrimmed.trim_eq]
      rw [← hcolorTrim] at hdenotes
      have hgives := GivesColor.intro hleftSide hdenotes
      rw [hnameTrim] at hgives
      exact namedColor?_eq_some_iff.mpr hgives
  | blank h => exact namedColor?_eq_none_of_notMem (hblanks h)
  | unassigned _ hequals => exact namedColor?_eq_none_of_notMem hequals
  | rejected hequals _ h =>
      rw [Codec.result_parse, trim_entryArguments_trim] at h
      rw [namedColor?_append hequals, h]

end EntryText

section Lists

variable {texts : List Text} {entries : List (Option (Text × Rgb))}

theorem filterMap_nameEntries (value : Text) :
    (nameEntries value).filterMap namedColor? = (value.splitOn ';').filterMap namedColor? := by
  rw [nameEntries, List.filterMap_filter, List.filterMap_map]
  refine List.filterMap_congr fun text _ => ?_
  rw [Function.comp_apply, ← namedColor?_trim text]
  split
  · rfl
  · rename_i hnil
    rw [decide_eq_true_eq, not_not] at hnil
    rw [hnil]
    rfl

theorem filterMap_splitOn_intercalate (hsemicolon : ∀ text ∈ texts, ';' ∉ text) :
    (([';'].intercalate texts).splitOn ';').filterMap namedColor? =
      texts.filterMap namedColor? := by
  by_cases hnil : texts = []
  · rw [hnil]
    rfl
  · rw [List.splitOn_intercalate ';' hsemicolon hnil]

theorem filterMap_of_entryTexts (h : List.Forall₂ EntryText texts entries) :
    texts.filterMap namedColor? = entries.filterMap id := by
  induction h with
  | nil => rfl
  | cons hentry _ ih => rw [List.filterMap_cons, List.filterMap_cons, hentry.namedColor?_eq, ih, id]

theorem semicolon_notMem_of_entryTexts (h : List.Forall₂ EntryText texts entries) :
    ∀ text ∈ texts, ';' ∉ text := by
  induction h with
  | nil => exact List.forall_mem_nil _
  | cons hentry _ ih => exact List.forall_mem_cons.mpr ⟨hentry.semicolon_notMem, ih⟩

theorem isName_of_mem_entries (h : List.Forall₂ EntryText texts entries) {name : Text} {rgb : Rgb}
    (hmem : some (name, rgb) ∈ entries) : IsName name := by
  induction h with
  | nil => contradiction
  | cons hentry _ ih =>
      rcases List.mem_cons.mp hmem with rfl | hmem
      · cases hentry with
        | named hname => exact hname
      · exact ih hmem

theorem names_ofEnvironment_of_entryTexts {env : Environment}
    (h : List.Forall₂ EntryText texts entries)
    (henv : env "QCOLOR_LENS_NAMED" = some ([';'].intercalate texts)) :
    (ofEnvironment env).1.names = ColorNames.standard.insertAll (entries.filterMap id) := by
  have hnames : (ofEnvironment env).1.names =
      (namesFrom ColorNames.standard (env "QCOLOR_LENS_NAMED")).1 := rfl
  rw [hnames, henv, (namesFrom_eq _ _).1, entriesOf, Option.elim_some, filterMap_nameEntries,
    filterMap_splitOn_intercalate (semicolon_notMem_of_entryTexts h), filterMap_of_entryTexts h]

end Lists

/-- Names come through the environment. A codec of the settings reads each of them, between quotes
of either kind, as the color that it is given last, and knows every other name as it did from the
start. -/
theorem names_survive_environment {texts : List Text} {entries : List (Option (Text × Rgb))}
    {env : Environment} (hentries : List.Forall₂ EntryText texts entries)
    (henv : env "QCOLOR_LENS_NAMED" = some ([';'].intercalate texts)) :
    (∀ front name rgb back, entries.filterMap id = front ++ (name, rgb) :: back →
      name ∉ back.map Prod.fst → ∀ quote, Arguments.IsQuote quote →
        ((ofEnvironment env).1.codec.parse (quote :: name ++ [quote])).result =
          .ok { toRgb := rgb, encoding := .named, source := quote :: name ++ [quote] }) ∧
    ∀ name, name ∉ (entries.filterMap id).map Prod.fst →
      (ofEnvironment env).1.codec.names.get? name = ColorNames.standard.get? name := by
  have hnames := names_ofEnvironment_of_entryTexts hentries henv
  constructor
  · intro front name rgb back hsplit hlast quote hquote
    have hmem : some (name, rgb) ∈ entries := by
      have hlisted : (name, rgb) ∈ entries.filterMap id := by
        rw [hsplit]
        exact List.mem_append_right _ List.mem_cons_self
      simpa using hlisted
    have hname := isName_of_mem_entries hentries hmem
    have hlookup : (ofEnvironment env).1.codec.names.get? name = some rgb := by
      rw [codec, hnames, hsplit, ColorNames.get?_insertAll_of_last hlast]
    have hblank : Text.isBlank quote = false := by
      rcases hquote with rfl | rfl <;> decide
    rw [Codec.parse_eq_ok_iff, (Text.IsTrimmed.enclosed hblank name).trim_eq]
    exact ⟨.named hquote hname.comma hname.hash hlookup rfl, rfl⟩
  · intro name hunlisted
    rw [codec, hnames, ColorNames.get?_insertAll_of_notMem hunlisted]

theorem last_colors_survive_among_malformed_entries :
    let env : Environment := fun variableName =>
      if variableName = "QCOLOR_LENS_NAMED" then
        some "red=#000000; ;ink; red\t= #0aF0fF ;ink=#0aFg;ink=1,2;my ink=+10 , 020,-0;"
      else none
    let codec := (ofEnvironment env).1.codec
    (codec.parse "'red'").result = .ok ⟨⟨⟨10, 240, 255⟩, 255⟩, .named, "'red'"⟩ ∧
      (codec.parse "\"my ink\"").result = .ok ⟨⟨⟨10, 20, 0⟩, 255⟩, .named, "\"my ink\""⟩ ∧
      codec.names.get? "blue" = some ⟨0, 0, 255⟩ := by
  intro env codec
  have hred : IsName "red" :=
    ⟨by decide, by decide, by decide, by decide, by decide⟩
  have hink : IsName "my ink" :=
    ⟨by decide, by decide, by decide, by decide, by decide⟩
  have hspace : Text.AllBlank " " := List.forall_mem_singleton.mpr (by decide)
  have htab : Text.AllBlank "\t" := List.forall_mem_singleton.mpr (by decide)
  have hblack : IsEntryColor "#000000" ⟨0, 0, 0⟩ :=
    @IsEntryColor.hex "000000" _ rfl (Arguments.isHexColor_of_hexChannels_eq_ok rfl)
  have hazure : IsEntryColor "#0aF0fF" ⟨10, 240, 255⟩ :=
    @IsEntryColor.hex "0aF0fF" _ rfl (Arguments.isHexColor_of_hexChannels_eq_ok rfl)
  have hdecimal : IsEntryColor "+10 , 020,-0" ⟨10, 20, 0⟩ :=
    @IsEntryColor.channels _ "+10 " " 020" "-0" _ (by decide) rfl
      (Arguments.channel_eq_ok_iff.mp rfl) (Arguments.channel_eq_ok_iff.mp rfl)
      (Arguments.channel_eq_ok_iff.mp rfl)
  have hentries : List.Forall₂ EntryText
      ["red=#000000", " ", "ink", " red\t= #0aF0fF ", "ink=#0aFg", "ink=1,2", "my ink=+10 , 020,-0",
        ""]
      [some ("red", ⟨0, 0, 0⟩), none, none, some ("red", ⟨10, 240, 255⟩), none, none,
        some ("my ink", ⟨10, 20, 0⟩), none] := by
    refine .cons ?_ (.cons (.blank hspace) (.cons (.unassigned (by decide) (by decide)) (.cons ?_
      (.cons ?_ (.cons ?_ (.cons ?_ (.cons (.blank nofun) .nil)))))))
    · exact @EntryText.named [] _ [] [] _ [] _ hred hblack nofun nofun nofun nofun
    · exact @EntryText.named " " _ "\t" " " _ " " _ hred hazure hspace htab hspace hspace
    · exact @EntryText.rejected "ink" "#0aFg" (.hexDigit "#0aFg") (by decide) (by decide) rfl
    · exact @EntryText.rejected "ink" "1,2" (.arity 2) (by decide) (by decide) rfl
    · exact @EntryText.named [] _ [] [] _ [] _ hink hdecimal nofun nofun nofun nofun
  obtain ⟨hlast, hother⟩ := names_survive_environment hentries (show env _ = _ by decide +kernel)
  refine ⟨?_, ?_, ?_⟩
  · exact hlast [("red", ⟨0, 0, 0⟩)] "red" ⟨10, 240, 255⟩ [("my ink", ⟨10, 20, 0⟩)] rfl (by decide)
      '\'' (.inr rfl)
  · exact hlast [("red", ⟨0, 0, 0⟩), ("red", ⟨10, 240, 255⟩)] "my ink" ⟨10, 20, 0⟩ [] rfl nofun
      '"' (.inl rfl)
  · exact (hother "blue" (by decide)).trans rfl

end Settings

end ColorCalls
