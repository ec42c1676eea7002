import ColorCalls.Proofs.Codec.Requests
import ColorCalls.Proofs.Recency
import ColorCalls.Proofs.Text.Trim

/-! A codec over a whole history of requests. Its answers are those of a ledger, which reads every
text anew and only writes down what it was asked for; the codec's memory holds the latest entries of
that ledger. -/

namespace ColorCalls

/-- A reader without a memory, and the texts that it was asked for, the latest first. -/
structure Ledger where
  callee : Text
  names : ColorNames
  asked : List Text := []

namespace Ledger

def recent (ledger : Ledger) : List Text := latest Codec.capacity ledger.asked

/-- A text is read anew, but noticed only when it was not asked for of late. -/
def parse (ledger : Ledger) (text : Text) : Reader.Step Ledger where
  result := Arguments.read ledger.names (Text.trim text)
  notices :=
    if ledger.recent.contains (Text.trim text) then []
    else Codec.firstNotices (Text.trim text) (Arguments.read ledger.names (Text.trim text))
  next := { ledger with asked := Text.trim text :: ledger.asked }

def reader : Reader where
  State := Ledger
  callee := Ledger.callee
  names := Ledger.names
  create := fun callee names => { callee, names }
  parse := parse

end Ledger

/-- What the codec remembers are the latest texts of the ledger, and all of those are trimmed. -/
structure Codec.Follows (codec : Codec) (ledger : Ledger) : Prop where
  callee : codec.callee = ledger.callee
  names : codec.names = ledger.names
  keys : codec.recent.keys = ledger.recent
  trimmed : ∀ text ∈ ledger.asked, Text.trim text = text

namespace Codec

theorem follows_parse {codec : Codec} {ledger : Ledger} (h : codec.Follows ledger)
    (text : Text) :
    (codec.parse text).result = (ledger.parse text).result ∧
      (codec.parse text).notices = (ledger.parse text).notices ∧
      (codec.parse text).codec.Follows (ledger.parse text).next := by
  have hresult : (codec.parse text).result = (ledger.parse text).result := by
    rw [result_parse, h.names]
    rfl
  refine ⟨hresult, ?_⟩
  have htrimmed : ∀ asked ∈ (ledger.parse text).next.asked, Text.trim asked = asked := by
    intro asked hasked
    rcases List.mem_cons.mp hasked with rfl | hasked
    · exact Text.trim_trim text
    · exact h.trimmed asked hasked
  cases hget : codec.recent.get? (Text.trim text) with
  | some reading =>
      have hmem : Text.trim text ∈ codec.recent.keys := by
        rw [← Memo.isSome_get?_iff, hget]
        rfl
      have hrecent : Text.trim text ∈ ledger.recent := by rwa [← h.keys]
      rw [parse_of_get?_eq_some hget]
      refine ⟨?_, h.callee, h.names, Memo.keys_promote_eq_latest h.keys hmem, htrimmed⟩
      rw [Ledger.parse, if_pos (List.contains_iff_mem.mpr hrecent)]
  | none =>
      have hrecent : Text.trim text ∉ ledger.recent := by
        rw [← h.keys, ← Memo.isSome_get?_iff, hget]
        simp
      rw [parse_of_get?_eq_none hget]
      refine ⟨?_, h.callee, h.names, Memo.keys_put_eq_latest h.keys _ _ rfl, htrimmed⟩
      rw [Ledger.parse, if_neg (mt List.contains_iff_mem.mp hrecent)]
      exact congrArg (fun names => firstNotices _ (Arguments.read names _)) h.names

theorem simulates_ledger : Codec.reader.Simulates Ledger.reader Codec.Follows where
  create := fun _ _ => ⟨rfl, rfl, rfl, by simp [Ledger.reader]⟩
  callee := Follows.callee
  names := Follows.names
  result := fun h text => (follows_parse h text).1
  notices := fun h text => (follows_parse h text).2.1
  next := fun h text => (follows_parse h text).2.2

end Codec

structure Lru.Keeper (lru : Lru Text Reading Codec.capacity) where
  callee : Text
  names : ColorNames
  table : lru.Table := lru.empty

namespace Lru

variable (lru : Lru Text Reading Codec.capacity)

def Keeper.parse {lru : Lru Text Reading Codec.capacity} (keeper : lru.Keeper) (text : Text) :
    Reader.Step lru.Keeper :=
  let arguments := Text.trim text
  let (known, table) := lru.get keeper.table arguments
  match known with
  | some reading => ⟨reading, [], { keeper with table := table }⟩
  | none =>
      let reading := Arguments.read keeper.names arguments
      ⟨reading, Codec.firstNotices arguments reading,
        { keeper with table := lru.put table arguments reading }⟩

def reader : Reader where
  State := lru.Keeper
  callee := Keeper.callee
  names := Keeper.names
  create := fun callee names => { callee, names }
  parse := Keeper.parse

structure Keeper.Follows {lru : Lru Text Reading Codec.capacity} (keeper : lru.Keeper)
    (ledger : Ledger) : Prop where
  callee : keeper.callee = ledger.callee
  names : keeper.names = ledger.names
  entries : lru.entries keeper.table =
    ledger.recent.map fun text => (text, Arguments.read ledger.names text)

theorem follows_parse {keeper : lru.Keeper} {ledger : Ledger} (h : keeper.Follows ledger)
    (text : Text) :
    (keeper.parse text).result = (ledger.parse text).result ∧
      (keeper.parse text).notices = (ledger.parse text).notices ∧
      (keeper.parse text).next.Follows (ledger.parse text).next := by
  by_cases hrecent : Text.trim text ∈ ledger.recent
  · obtain ⟨hget, hentries⟩ := lru.get_of_mem_latest h.entries hrecent
    rw [Keeper.parse]
    simp only [hget]
    refine ⟨rfl, ?_, h.callee, h.names, hentries⟩
    rw [Ledger.parse, if_pos (List.contains_iff_mem.mpr hrecent)]
  · obtain ⟨hget, hentries⟩ := lru.get_of_notMem_latest h.entries hrecent
    rw [Keeper.parse]
    simp only [hget, h.names]
    refine ⟨rfl, ?_, h.callee, rfl, hentries⟩
    rw [Ledger.parse, if_neg (mt List.contains_iff_mem.mp hrecent)]

theorem simulates_ledger : lru.reader.Simulates Ledger.reader Keeper.Follows where
  create := fun _ _ => ⟨rfl, rfl, lru.entries_empty⟩
  callee := Keeper.Follows.callee
  names := Keeper.Follows.names
  result := fun h text => (lru.follows_parse h text).1
  notices := fun h text => (lru.follows_parse h text).2.1
  next := fun h text => (lru.follows_parse h text).2.2

end Lru

def Ledger.serve : Ledger → Request → Answer × Ledger := Ledger.reader.serve

def Lru.serve (lru : Lru Text Reading Codec.capacity) :
    lru.Keeper → Request → Answer × lru.Keeper :=
  lru.reader.serve

namespace Codec

theorem answers_eq_ledger (callee : Text) (names : ColorNames) (requests : List Request) :
    (answers serve { callee, names } requests).1 =
        (answers Ledger.serve { callee, names } requests).1 ∧
      (answers serve { callee, names } requests).2.Follows
        (answers Ledger.serve { callee, names } requests).2 := by
  have hserve : serve = Codec.reader.serve := by
    funext codec request
    exact codec.serve_eq request
  rw [hserve]
  exact simulates_ledger.run (simulates_ledger.create callee names) requests

theorem mem_firstNotices_iff {arguments : Text} {reading : Reading} {notice : Notice} :
    notice ∈ firstNotices arguments reading ↔
      ∃ rule rejection, notice = .ruleRejected rule arguments rejection ∧
        Arguments.rule? arguments = some rule ∧ reading = .error rejection := by
  cases reading with
  | ok color => simp [firstNotices]
  | error rejection =>
      cases hrule : Arguments.rule? arguments with
      | none => simp [firstNotices, hrule]
      | some rule => simp [firstNotices, hrule]

end Codec

theorem Lru.answers_eq_ledger (lru : Lru Text Reading Codec.capacity) (callee : Text)
    (names : ColorNames) (requests : List Request) :
    (answers lru.serve { callee, names } requests).1 =
        (answers Ledger.serve { callee, names } requests).1 ∧
      (answers lru.serve { callee, names } requests).2.Follows
        (answers Ledger.serve { callee, names } requests).2 :=
  lru.simulates_ledger.run (lru.simulates_ledger.create callee names) requests

/-- A codec's answers are those of a ledger, which has no memory. It remembers the last 1024
distinct texts it was asked for since it was made, trimmed and with their readings, and a rejected
text is noticed exactly when it is not among them. Any other table of that size would do as well. -/
theorem codec_answers_like_ledger (callee : Text) (names : ColorNames)
    (requests : List Request) :
    let codec := (answers Codec.serve { callee, names } requests).2
    let ledger := (answers Ledger.serve { callee, names } requests).2
    (answers Codec.serve { callee, names } requests).1 =
        (answers Ledger.serve { callee, names } requests).1 ∧
      codec.callee = ledger.callee ∧ codec.names = ledger.names ∧
      codec.recent.keys = ledger.asked.eraseDups.take 1024 ∧
      codec.recent.entries.length ≤ 1024 ∧
      (∀ entry ∈ codec.recent.entries, Text.trim entry.1 = entry.1 ∧
        entry.2 = Arguments.read codec.names entry.1) ∧
      (∀ text, (codec.parse text).result = Arguments.read codec.names (Text.trim text) ∧
        ∀ notice, notice ∈ (codec.parse text).notices ↔
          ∃ rule rejection, notice = .ruleRejected rule (Text.trim text) rejection ∧
            Arguments.rule? (Text.trim text) = some rule ∧
            Arguments.read codec.names (Text.trim text) = .error rejection ∧
            Text.trim text ∉ ledger.asked.eraseDups.take 1024) ∧
      ∀ lru : Lru Text Reading 1024,
        (answers lru.serve { callee, names } requests).1 =
            (answers Codec.serve { callee, names } requests).1 ∧
          lru.entries (answers lru.serve { callee, names } requests).2.table =
            codec.recent.entries := by
  intro codec ledger
  obtain ⟨hanswers, hfollows⟩ := Codec.answers_eq_ledger callee names requests
  have hkeys : codec.recent.keys = ledger.recent := hfollows.keys
  have hlength : codec.recent.entries.length = codec.recent.keys.length :=
    (List.length_map Prod.fst).symm
  refine ⟨hanswers, hfollows.callee, hfollows.names, hkeys, ?_, ?_, ?_, ?_⟩
  · rw [hlength, hkeys]
    exact length_latest_le _ _
  · intro entry hentry
    refine ⟨hfollows.trimmed entry.1 ?_, codec.recent.sound entry hentry⟩
    have hmem : entry.1 ∈ codec.recent.keys := List.mem_map_of_mem hentry
    rw [hkeys] at hmem
    exact List.mem_eraseDups.mp (List.mem_of_mem_take hmem)
  · intro text
    refine ⟨Codec.result_parse codec text, ?_⟩
    intro notice
    rw [(Codec.follows_parse hfollows text).2.1, Ledger.parse, ← hfollows.names]
    split
    · rename_i hcontains
      have hmem := List.contains_iff_mem.mp hcontains
      constructor
      · intro hnotice
        cases hnotice
      · intro ⟨_, _, _, _, _, hnotMem⟩
        exact absurd hmem hnotMem
    · rename_i hcontains
      have hnotMem := mt List.contains_iff_mem.mpr hcontains
      rw [Codec.mem_firstNotices_iff]
      constructor
      · intro ⟨rule, rejection, hnotice, hrule, hrejected⟩
        exact ⟨rule, rejection, hnotice, hrule, hrejected, hnotMem⟩
      · intro ⟨rule, rejection, hnotice, hrule, hrejected, _⟩
        exact ⟨rule, rejection, hnotice, hrule, hrejected⟩
  · intro lru
    obtain ⟨hothers, hkept⟩ := lru.answers_eq_ledger callee names requests
    refine ⟨hothers.trans hanswers.symm, ?_⟩
    rw [hkept.entries, codec.recent.entries_eq_map_keys, hkeys, hfollows.names]

theorem rejected_twice_noticed_once :
    (answers (Lru.listed Text Reading 1024).serve { callee := "QColor", names := .standard }
        [.parse " 1,2", .parse "1,2 "]).1 =
      [.reading (.error (.arity 2)) [.ruleRejected .channelList "1,2" (.arity 2)],
        .reading (.error (.arity 2)) []] := by
  obtain ⟨_, _, _, _, _, _, _, hlru⟩ := codec_answers_like_ledger "QColor" .standard
    [.parse " 1,2", .parse "1,2 "]
  exact (hlru (Lru.listed Text Reading 1024)).1.trans (by rfl)

end ColorCalls
