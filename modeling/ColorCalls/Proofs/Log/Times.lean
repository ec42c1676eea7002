import ColorCalls.Log.Logger

/-! Times left blank. Records that are not let through leave no trace in the output of a logger
(`sifts_writeAll`). A line that is written shows its time or, if the line before it has the same
one, as many blanks as the time has bytes (`getElem?_writeAll`). The last time printed stands for
the blank ones, so no time is lost (`blank_times_are_restored`). -/

namespace ColorCalls.Logger

/-- The texts that entries add to the output are the lines, in their order, of those that are let
through; the others add nothing. -/
inductive Sifts (logger : Logger) : List (Text × Record) → List Text → List Text → Prop where
  | nil : Sifts logger [] [] []
  | written {time : Text} {r : Record} {entries : List (Text × Record)} {texts lines : List Text}
      (line : Text) (henabled : logger.enabled r.level = true)
      (hrest : Sifts logger entries texts lines) :
      Sifts logger ((time, r) :: entries) (line :: texts) (line :: lines)
  | silent {time : Text} {r : Record} {entries : List (Text × Record)} {texts lines : List Text}
      (hdisabled : logger.enabled r.level = false) (hrest : Sifts logger entries texts lines) :
      Sifts logger ((time, r) :: entries) ([] :: texts) lines

def kept (logger : Logger) (entries : List (Text × Record)) : List (Text × Record) :=
  entries.filter fun entry => logger.enabled entry.2.level

theorem sifts_writeAll (logger : Logger) (last : Option Text) (entries : List (Text × Record)) :
    logger.Sifts entries (logger.writeAll last entries)
      (logger.writeAll last (logger.kept entries)) := by
  induction entries generalizing last with
  | nil => exact .nil
  | cons entry entries ih =>
      obtain ⟨time, r⟩ := entry
      cases henabled : logger.enabled r.level with
      | true =>
          have hkept : logger.kept ((time, r) :: entries) = (time, r) :: logger.kept entries :=
            List.filter_cons_of_pos henabled
          rw [hkept]
          exact .written _ henabled (ih _)
      | false =>
          have hkept : logger.kept ((time, r) :: entries) = logger.kept entries :=
            List.filter_cons_of_neg (by simp [henabled])
          rw [hkept]
          simp only [writeAll, write, henabled, Bool.false_eq_true, if_false]
          exact .silent henabled (ih last)

def withoutTimes (logger : Logger) : Logger := { logger with showTime := false }

def withAllTimes (logger : Logger) : Logger := { logger with omitRepeatedTimes := false }

/-- A time as it is shown behind another one. -/
def shownTime (previous : Option Text) (time : Text) : Text :=
  if previous = some time then List.replicate (Text.bytes time) ' ' else time

def behindTime (logger : Logger) (r : Record) : Text :=
  logger.withoutTimes.line none [] r ++ ['\n']

variable {logger : Logger} {last : Option Text} {time : Text} {r : Record}

theorem line_of_showTime (hshow : logger.showTime = true) (last : Option Text) (time : Text)
    (r : Record) :
    logger.line last time r ++ ['\n'] =
      logger.timeColumn last time ++ ' ' :: logger.behindTime r := by
  simp only [line, hshow, if_true, behindTime, withoutTimes, Bool.false_eq_true, if_false,
    List.nil_append, List.append_assoc, List.singleton_append]
  rfl

theorem write_of_omitRepeatedTimes (hshow : logger.showTime = true)
    (homit : logger.omitRepeatedTimes = true) (henabled : logger.enabled r.level = true) :
    logger.write last time r =
      (shownTime last time ++ ' ' :: logger.behindTime r, some time) := by
  have hcolumn : logger.timeColumn last time = shownTime last time := by
    simp [timeColumn, shownTime, homit]
  have hremembered : logger.remembered last time = some time := by
    simp [remembered, hshow, homit]
  rw [write, if_pos henabled, line_of_showTime hshow, hcolumn, hremembered]

theorem write_withAllTimes (hshow : logger.showTime = true)
    (henabled : logger.enabled r.level = true) :
    logger.withAllTimes.write last time r = (time ++ ' ' :: logger.behindTime r, last) := by
  have hall : logger.withAllTimes.enabled r.level = true := henabled
  have hcolumn : logger.withAllTimes.timeColumn last time = time := rfl
  have hbehind : logger.withAllTimes.behindTime r = logger.behindTime r := rfl
  have hremembered : logger.withAllTimes.remembered last time = last := by
    simp [remembered, withAllTimes]
  rw [write, if_pos hall, line_of_showTime (show logger.withAllTimes.showTime = true from hshow),
    hcolumn, hbehind, hremembered]

theorem getElem?_writeAll (hshow : logger.showTime = true)
    (homit : logger.omitRepeatedTimes = true) {before after : List (Text × Record)}
    (henabled : ∀ entry ∈ before ++ (time, r) :: after, logger.enabled entry.2.level = true) :
    (logger.writeAll last (before ++ (time, r) :: after))[before.length]? =
      some (shownTime ((before.getLast?.map Prod.fst).or last) time ++
        ' ' :: logger.behindTime r) := by
  induction before generalizing last with
  | nil =>
      have hr := henabled (time, r) (by simp)
      simp [writeAll, write_of_omitRepeatedTimes hshow homit hr]
  | cons entry before ih =>
      obtain ⟨hentry, hrest⟩ := List.forall_mem_cons.mp henabled
      rw [List.cons_append, writeAll, write_of_omitRepeatedTimes hshow homit hentry]
      simp only
      rw [List.length_cons, List.getElem?_cons_succ, ih hrest]
      rw [List.getLast?_cons]
      cases before.getLast? with
      | none => rfl
      | some final => rfl

/-- How many characters the time takes in a line, and whether it was left blank. -/
structure TimeColumn where
  width : Nat
  blank : Bool
  deriving DecidableEq, Repr

def TimeColumn.behind (previous : Option Text) (time : Text) : TimeColumn where
  width := (shownTime previous time).length
  blank := previous = some time

def timeColumns (last : Option Text) (times : List Text) : List TimeColumn :=
  List.zipWith TimeColumn.behind (last :: times.map some) times

/-- Puts the last time printed in the place of each one that was left blank. -/
def restored : Text → List (TimeColumn × Text) → List Text
  | _, [] => []
  | printed, (column, line) :: lines =>
      let time := if column.blank then printed else line.take column.width
      (time ++ line.drop column.width) :: restored time lines

theorem restored_writeAll (hshow : logger.showTime = true)
    (homit : logger.omitRepeatedTimes = true) {entries : List (Text × Record)}
    (henabled : ∀ entry ∈ entries, logger.enabled entry.2.level = true) {printed : Text}
    (hprinted : ∀ time ∈ last, printed = time) :
    restored printed ((timeColumns last (entries.map Prod.fst)).zip
        (logger.writeAll last entries)) =
      logger.withAllTimes.writeAll none entries := by
  induction entries generalizing last printed with
  | nil => rfl
  | cons entry entries ih =>
      obtain ⟨time, r⟩ := entry
      obtain ⟨hr, hentries⟩ := List.forall_mem_cons.mp henabled
      rw [writeAll, writeAll, write_of_omitRepeatedTimes hshow homit hr,
        write_withAllTimes hshow hr]
      have htime : (if decide (last = some time) = true then printed
          else shownTime last time) = time := by
        simp only [decide_eq_true_eq]
        split
        · rename_i hlast
          exact hprinted time hlast
        · rename_i hlast
          exact if_neg hlast
      simp only [timeColumns, List.map_cons, List.zipWith_cons_cons, List.zip_cons_cons, restored,
        TimeColumn.behind, List.take_left, List.drop_left, htime]
      exact congrArg _ (ih hentries fun next hnext => Option.some.inj hnext)

/-- Records that are not let through add nothing to the output and change nothing about the rest of
it. Each line shows its time, or as many blanks as the time has bytes where the line before it came
at the same time. With the last time printed in the place of each one left blank, the output is that
of the same logger with every time printed. -/
theorem blank_times_are_restored (hshow : logger.showTime = true)
    (homit : logger.omitRepeatedTimes = true) (entries : List (Text × Record)) :
    let lines := logger.writeAll none (logger.kept entries)
    let allLines := logger.withAllTimes.writeAll none (logger.kept entries)
    logger.Sifts entries (logger.writeAll none entries) lines ∧
    (∀ before time r after, logger.kept entries = before ++ (time, r) :: after →
      lines[before.length]? =
        some (shownTime (before.getLast?.map Prod.fst) time ++ ' ' :: logger.behindTime r)) ∧
    restored [] ((timeColumns none ((logger.kept entries).map Prod.fst)).zip lines) = allLines ∧
    logger.withAllTimes.Sifts entries (logger.withAllTimes.writeAll none entries) allLines := by
  have henabled : ∀ entry ∈ logger.kept entries, logger.enabled entry.2.level = true :=
    fun entry hentry => (List.mem_filter.mp hentry).2
  refine ⟨sifts_writeAll logger none entries, ?_,
    restored_writeAll hshow homit henabled nofun,
    sifts_writeAll logger.withAllTimes none entries⟩
  intro before time r after hkept
  rw [hkept] at henabled ⊢
  rw [getElem?_writeAll hshow homit henabled, Option.or_none]

theorem returning_and_empty_times_are_restored :
    let logger : Logger := { filter := some .info, showLevel := false, showTarget := true }
    let entries : List (Text × Record) :=
      [("é", ⟨.warn, "a", "one"⟩), ("9", ⟨.debug, "a", "two"⟩), ("é", ⟨.info, "a", "three"⟩),
        ("", ⟨.error, [], "four"⟩), ("", ⟨.error, [], "five"⟩), ("é", ⟨.info, "b", "six"⟩)]
    let columns : List TimeColumn := [⟨1, false⟩, ⟨2, true⟩, ⟨0, false⟩, ⟨0, true⟩, ⟨1, false⟩]
    let lines : List Text := ["é one [a]\n", "   three [a]\n", " four\n", " five\n", "é six [b]\n"]
    logger.showTime = true ∧ logger.omitRepeatedTimes = true ∧
      logger.writeAll none (logger.kept entries) = lines ∧
      logger.Sifts entries (logger.writeAll none entries) lines ∧
      restored [] (columns.zip lines) = logger.withAllTimes.writeAll none (logger.kept entries) := by
  intro logger entries columns lines
  have hlines : logger.writeAll none (logger.kept entries) = lines := by decide +kernel
  have hcolumns : timeColumns none ((logger.kept entries).map Prod.fst) = columns := by
    decide +kernel
  have hshow : logger.showTime = true := rfl
  have homit : logger.omitRepeatedTimes = true := rfl
  obtain ⟨hsifts, -, hrestored, -⟩ := blank_times_are_restored hshow homit entries
  rw [hlines] at hsifts hrestored
  rw [hcolumns] at hrestored
  exact ⟨hshow, homit, hlines, hsifts, hrestored⟩

end ColorCalls.Logger
