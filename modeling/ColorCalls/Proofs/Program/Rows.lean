import ColorCalls.Program
import ColorCalls.Proofs.FileStore
import ColorCalls.Proofs.Locator.Scan

/-! The rows of a listing. The sources are read one after the other by a locator that remembers, and
standard input is empty once it was read; the rows are nevertheless those of each source read on its
own (`mem_rows_listing_iff`). -/

namespace ColorCalls

theorem Locator.found_findAll_nil (locator : Locator) : (locator.findAll []).found = [] := by
  rw [found_findAll, Call.list, Call.listFrom_nil]
  rfl

namespace Program

variable {files : FileStore} {locator : Locator} {input : ByteArray} {source : Text}
  {row : Listing.Row}

def Shows (files : FileStore) (locator : Locator) (input : ByteArray) (source : Text)
    (row : Listing.Row) : Prop :=
  ∃ t, (readSource files input source).1 = .ok t ∧
    ∃ call ∈ (locator.findAll t).found, row = .ofCall (label source) call

theorem alike_source {listed : Listed} (h : locator.Alike listed.locator) :
    locator.Alike (listed.source files source).locator := by
  simp only [Listed.source]
  split
  · exact h.trans (Locator.alike_findAll _ _)
  · exact h

theorem input_source (listed : Listed) :
    (listed.source files source).input = (readSource files listed.input source).2 := by
  simp only [Listed.source]
  split
  · rfl
  · rfl

theorem mem_rows_source_iff {listed : Listed} (h : locator.Alike listed.locator) :
    row ∈ (listed.source files source).rows ↔
      row ∈ listed.rows ∨ Shows files locator listed.input source row := by
  rw [Shows]
  simp only [Listed.source]
  cases hread : (readSource files listed.input source).1 with
  | error e => simp
  | ok t => simp [h.found, eq_comm]

theorem shows_iff_of_ne (hsource : source ≠ inputSource) (input' : ByteArray) :
    Shows files locator input' source row ↔ Shows files locator input source row := by
  simp only [Shows, readSource, if_neg hsource]

theorem not_shows_empty : ¬ Shows files locator .empty inputSource row := by
  rintro ⟨t, hread, call, hcall, -⟩
  rw [readSource, if_pos rfl] at hread
  have ht : encodeText [] = encodeText t := readText_eq_ok_iff.mp hread
  rw [← encodeText_injective ht, Locator.found_findAll_nil] at hcall
  contradiction

theorem shows_rest_iff {first : Text} (hfirst : ¬ Shows files locator input first row) :
    Shows files locator (readSource files input first).2 source row ↔
      Shows files locator input source row := by
  by_cases hsource : source = inputSource
  · subst hsource
    by_cases hinput : first = inputSource
    · rw [readSource, if_pos hinput]
      exact iff_of_false not_shows_empty (hinput ▸ hfirst)
    · rw [readSource, if_neg hinput]
  · exact shows_iff_of_ne hsource _

theorem mem_rows_foldl_iff {listed : Listed} (h : locator.Alike listed.locator)
    (sources : List Text) :
    row ∈ (sources.foldl (fun listed source => listed.source files source) listed).rows ↔
      row ∈ listed.rows ∨ ∃ source ∈ sources, Shows files locator listed.input source row := by
  induction sources generalizing listed with
  | nil => simp
  | cons first sources ih =>
      rw [List.foldl_cons, ih (alike_source h), mem_rows_source_iff h, input_source]
      by_cases hfirst : Shows files locator listed.input first row
      · simp [hfirst]
      · simp [hfirst, shows_rest_iff hfirst]

/-- A listing has a row for each color call of each source, and no other rows. -/
theorem mem_rows_listing_iff {session : Session} {settings : Settings} {given : List Text} :
    row ∈ (listing session settings given).rows ↔
      ∃ source ∈ sourcesOf given,
        Shows session.files settings.locator session.input source row := by
  rw [listing, mem_rows_foldl_iff ⟨rfl, rfl, rfl⟩]
  simp

end Program

end ColorCalls
