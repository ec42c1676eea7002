import ColorCalls.Log.Logger
import ColorCalls.Proofs.Text.Numeral

namespace ColorCalls

namespace TimeFormat

theorem lineFeed_notMem_padded (padding : Padding) (width n : Nat) :
    '\n' ∉ padded padding width n := by
  cases padding with
  | zero => simp [padded, Text.lineFeed_notMem_decimal]
  | space => simp [padded, Text.lineFeed_notMem_decimal]
  | none => exact Text.lineFeed_notMem_decimal n

theorem lineFeed_notMem_signText (mandatory negative : Bool) :
    '\n' ∉ signText mandatory negative := by
  cases mandatory <;> cases negative <;> decide

theorem lineFeed_notMem_fractionDigits (nanosecond : Nat) (digits : Option Nat) :
    '\n' ∉ fractionDigits nanosecond digits := by
  have hall := lineFeed_notMem_padded .zero 9 nanosecond
  cases digits with
  | some digits => exact fun h => hall (List.mem_of_mem_take h)
  | none =>
      rw [fractionDigits, List.mem_cons, not_or]
      constructor
      · cases hdigits : padded .zero 9 nanosecond with
        | nil => decide
        | cons c rest =>
            rw [hdigits] at hall
            exact (List.ne_and_not_mem_of_not_mem_cons hall).1
      · intro h
        have hdropped := (List.dropWhile_sublist _).mem (List.mem_reverse.mp h)
        exact hall (List.mem_of_mem_tail (List.mem_reverse.mp hdropped))

theorem lineFeed_notMem_writeYear (m : Moment) (padding : Padding) (part : YearPart)
    (isoWeek mandatorySign : Bool) :
    '\n' ∉ writeYear m padding part isoWeek mandatorySign := by
  cases part with
  | full => simp [writeYear, lineFeed_notMem_signText, lineFeed_notMem_padded]
  | century => simp [writeYear, lineFeed_notMem_signText, lineFeed_notMem_padded]
  | lastTwo => exact lineFeed_notMem_padded padding 2 _

theorem lineFeed_notMem_getD {names : List Text} (h : ∀ name ∈ names, '\n' ∉ name) (i : Nat) :
    '\n' ∉ names.getD i [] := by
  rw [List.getD_eq_getElem?_getD]
  cases hname : names[i]? with
  | none => exact List.not_mem_nil
  | some name => exact h name (List.mem_of_getElem? hname)

theorem lineFeed_notMem_monthName (m : Moment) : '\n' ∉ m.monthName :=
  lineFeed_notMem_getD (by decide) _

theorem lineFeed_notMem_weekdayName (m : Moment) : '\n' ∉ m.weekdayName :=
  lineFeed_notMem_getD (by decide) _

theorem lineFeed_notMem_writeComponent (m : Moment) (c : TimeComponent) :
    '\n' ∉ writeComponent m c := by
  cases c with
  | year padding part isoWeek mandatorySign =>
      exact lineFeed_notMem_writeYear m padding part isoWeek mandatorySign
  | month padding style =>
      cases style with
      | number => exact lineFeed_notMem_padded padding 2 _
      | long => exact lineFeed_notMem_monthName m
      | short => exact fun h => lineFeed_notMem_monthName m (List.mem_of_mem_take h)
  | day padding => exact lineFeed_notMem_padded padding 2 _
  | dayOfYear padding => exact lineFeed_notMem_padded padding 3 _
  | weekday style start fromOne =>
      cases style with
      | number => exact Text.lineFeed_notMem_decimal _
      | long => exact lineFeed_notMem_weekdayName m
      | short => exact fun h => lineFeed_notMem_weekdayName m (List.mem_of_mem_take h)
  | week padding start =>
      cases start with
      | none => exact lineFeed_notMem_padded padding 2 _
      | some start => exact lineFeed_notMem_padded padding 2 _
  | hour padding twelve => exact lineFeed_notMem_padded padding 2 _
  | minute padding => exact lineFeed_notMem_padded padding 2 _
  | second padding => exact lineFeed_notMem_padded padding 2 _
  | period upper =>
      cases upper with
      | true =>
          simp only [writeComponent]
          split <;> decide
      | false =>
          simp only [writeComponent]
          split <;> decide
  | subsecond digits => exact lineFeed_notMem_fractionDigits m.nanosecond digits
  | offsetHour padding mandatorySign =>
      simp [writeComponent, lineFeed_notMem_signText, lineFeed_notMem_padded]
  | offsetMinute padding => exact lineFeed_notMem_padded padding 2 _
  | offsetSecond padding => exact lineFeed_notMem_padded padding 2 _
  | epoch digits mandatorySign =>
      simp [writeComponent, lineFeed_notMem_signText, Text.lineFeed_notMem_decimal]
  | nothing => exact List.not_mem_nil

/-- A format writes a line feed at one time or at all times. -/
theorem lineFeed_mem_write_iff (format : TimeFormat) (m : Moment) :
    '\n' ∈ format.write m ↔ ∃ text, .literal text ∈ format ∧ '\n' ∈ text := by
  rw [write, List.mem_flatMap]
  constructor
  · rintro ⟨item, hitem, hmem⟩
    cases item with
    | literal text => exact ⟨text, hitem, hmem⟩
    | component c => exact absurd hmem (lineFeed_notMem_writeComponent m c)
  · rintro ⟨text, hitem, hmem⟩
    exact ⟨.literal text, hitem, hmem⟩

example (m : Moment) : '\n' ∉ clock.write m := by
  simp [lineFeed_mem_write_iff, clock]

end TimeFormat

namespace Logger

variable (logger : Logger) (last : Option Text)

theorem lineFeed_notMem_levelColumn (level : Level) : '\n' ∉ logger.levelColumn level := by
  have hpainted : ∀ plainColors : Bool,
      '\n' ∉ paintedLevel plainColors level (Text.padTo List.length 5 level.name) := by
    intro plainColors
    cases level <;> cases plainColors <;> decide +kernel
  have hpadded : '\n' ∉ Text.padTo List.length 5 level.name := by
    cases level <;> decide +kernel
  rw [levelColumn]
  split
  · exact hpainted logger.plainColors
  · exact hpadded

variable {time : Text} {r : Record}

theorem lineFeed_notMem_timeColumn (htime : '\n' ∉ time) : '\n' ∉ logger.timeColumn last time := by
  rw [timeColumn]
  split
  · simp
  · exact htime

theorem count_line (htime : '\n' ∉ time) (htarget : '\n' ∉ r.target) :
    (logger.line last time r).count '\n' = r.message.count '\n' := by
  have htimes : '\n' ∉ if logger.showTime then logger.timeColumn last time ++ [' '] else [] := by
    split
    · simp [lineFeed_notMem_timeColumn, htime]
    · exact List.not_mem_nil
  have hlevels : '\n' ∉ if logger.showLevel then logger.levelColumn r.level ++ [' '] else [] := by
    split
    · simp [lineFeed_notMem_levelColumn]
    · exact List.not_mem_nil
  have htargets :
      '\n' ∉ if logger.showTarget && r.target ≠ [] then ' ' :: '[' :: r.target ++ [']'] else [] := by
    split
    · simp [htarget]
    · exact List.not_mem_nil
  simp only [line, List.count_append, List.count_eq_zero_of_not_mem htimes,
    List.count_eq_zero_of_not_mem hlevels, List.count_eq_zero_of_not_mem htargets]
  omega

theorem count_write (htime : '\n' ∉ time) (htarget : '\n' ∉ r.target) :
    (logger.write last time r).1.count '\n' =
      if logger.enabled r.level then r.message.count '\n' + 1 else 0 := by
  rw [write]
  split
  · rw [List.count_append, count_line logger last htime htarget]
    rfl
  · rfl

variable {entries : List (Text × Record)}

theorem countP_enabled_le_count_writeAll (htimes : ∀ entry ∈ entries, '\n' ∉ entry.1)
    (htargets : ∀ entry ∈ entries, '\n' ∉ entry.2.target) :
    (entries.countP fun entry => logger.enabled entry.2.level) ≤
      (logger.writeAll last entries).flatten.count '\n' := by
  induction entries generalizing last with
  | nil => exact Nat.zero_le _
  | cons entry entries ih =>
      obtain ⟨time, r⟩ := entry
      rw [List.forall_mem_cons] at htimes htargets
      have htail := ih (logger.write last time r).2 htimes.2 htargets.2
      rw [writeAll, List.flatten_cons, List.count_append, List.countP_cons,
        count_write logger last htimes.1 htargets.1]
      by_cases henabled : logger.enabled r.level = true
      · simp only [henabled, if_true]
        omega
      · simp only [henabled, Bool.false_eq_true, if_false]
        omega

theorem count_writeAll_eq_iff (htimes : ∀ entry ∈ entries, '\n' ∉ entry.1)
    (htargets : ∀ entry ∈ entries, '\n' ∉ entry.2.target) :
    (logger.writeAll last entries).flatten.count '\n' =
        (entries.countP fun entry => logger.enabled entry.2.level) ↔
      ∀ entry ∈ entries, logger.enabled entry.2.level → '\n' ∉ entry.2.message := by
  induction entries generalizing last with
  | nil => simp [writeAll]
  | cons entry entries ih =>
      obtain ⟨time, r⟩ := entry
      rw [List.forall_mem_cons] at htimes htargets ⊢
      have htail := countP_enabled_le_count_writeAll logger (logger.write last time r).2 htimes.2
        htargets.2
      rw [← ih (logger.write last time r).2 htimes.2 htargets.2, writeAll, List.flatten_cons,
        List.count_append, List.countP_cons, count_write logger last htimes.1 htargets.1,
        ← List.count_eq_zero]
      by_cases henabled : logger.enabled r.level = true
      · simp only [henabled, if_true, forall_const]
        omega
      · simp only [henabled, Bool.false_eq_true, if_false, false_implies, true_and]
        omega

end Logger

end ColorCalls
