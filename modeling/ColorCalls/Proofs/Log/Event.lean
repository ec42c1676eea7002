import ColorCalls.Log.Event

namespace ColorCalls

namespace FieldValue

@[simp] theorem stripQuotes_enclosed (inner : Text) :
    stripQuotes ('"' :: (inner ++ ['"'])) = inner := by
  simp [stripQuotes]

theorem stripQuotes_of_not_enclosed {t : Text} (h : ∀ inner, t ≠ '"' :: (inner ++ ['"'])) :
    stripQuotes t = t := by
  unfold stripQuotes
  split
  · rename_i rest
    split
    · rename_i hlast
      obtain ⟨inner, rfl⟩ := List.getLast?_eq_some_iff.mp hlast
      exact absurd rfl (h inner)
    · rfl
  · rfl

theorem length_stripQuotes_le (t : Text) : (stripQuotes t).length ≤ t.length := by
  by_cases h : ∃ inner, t = '"' :: (inner ++ ['"'])
  · obtain ⟨inner, rfl⟩ := h
    rw [stripQuotes_enclosed, List.length_cons, List.length_append]
    omega
  · exact Nat.le_of_eq (congrArg List.length (stripQuotes_of_not_enclosed (not_exists.mp h)))

theorem stripQuotes_eq_self_iff (t : Text) :
    stripQuotes t = t ↔ ∀ inner, t ≠ '"' :: (inner ++ ['"']) := by
  refine ⟨?_, stripQuotes_of_not_enclosed⟩
  rintro h inner rfl
  have hlength := congrArg List.length h
  rw [stripQuotes_enclosed, List.length_cons, List.length_append] at hlength
  omega

end FieldValue

/-- The record with its message as an event renders it. -/
def Record.stripped (r : Record) : Record :=
  { r with message := FieldValue.stripQuotes r.message }

namespace Logger

variable (logger : Logger) (last : Option Text) (time : Text) (r : Record)

theorem exists_line_eq : ∃ front back : Text, ∀ message : Text,
    logger.line last time { r with message := message } = front ++ message ++ back :=
  ⟨(if logger.showTime then logger.timeColumn last time ++ [' '] else []) ++
      if logger.showLevel then logger.levelColumn r.level ++ [' '] else [],
    if logger.showTarget && r.target ≠ [] then ' ' :: '[' :: r.target ++ [']'] else [],
    fun _ => rfl⟩

theorem snd_write_stripped :
    (logger.write last time r.stripped).2 = (logger.write last time r).2 := by
  by_cases henabled : logger.enabled r.level = true
  · simp only [write, Record.stripped, henabled, if_true]
  · simp only [write, Record.stripped, henabled]
    rfl

theorem length_write_stripped_le :
    (logger.write last time r.stripped).1.length ≤ (logger.write last time r).1.length := by
  by_cases henabled : logger.enabled r.level = true
  · obtain ⟨front, back, hline⟩ := exists_line_eq logger last time r
    have hmessage := FieldValue.length_stripQuotes_le r.message
    simp only [write, Record.stripped, henabled, if_true]
    rw [hline, hline r.message]
    simp only [List.length_append]
    omega
  · simp [write, Record.stripped, henabled]

theorem write_stripped_eq_iff :
    (logger.write last time r.stripped).1 = (logger.write last time r).1 ↔
      (logger.enabled r.level → FieldValue.stripQuotes r.message = r.message) := by
  by_cases henabled : logger.enabled r.level = true
  · obtain ⟨front, back, hline⟩ := exists_line_eq logger last time r
    simp only [write, Record.stripped, henabled, if_true, forall_const]
    rw [hline, hline r.message, List.append_cancel_right_eq, List.append_cancel_right_eq,
      List.append_cancel_left_eq]
  · simp [write, Record.stripped, henabled]

theorem length_flatten_writeAll_stripped_le (records : List (Text × Record)) :
    (logger.writeAll last (records.map fun entry => (entry.1, entry.2.stripped))).flatten.length ≤
      (logger.writeAll last records).flatten.length := by
  induction records generalizing last with
  | nil => exact Nat.le_refl 0
  | cons entry records ih =>
      obtain ⟨time, r⟩ := entry
      have hhead := length_write_stripped_le logger last time r
      have htail := ih (logger.write last time r).2
      simp only [List.map_cons, writeAll, snd_write_stripped, List.flatten_cons,
        List.length_append]
      omega

/-- No line can make up for what another one has lost. -/
theorem flatten_writeAll_stripped_eq_iff (records : List (Text × Record)) :
    (logger.writeAll last (records.map fun entry => (entry.1, entry.2.stripped))).flatten =
        (logger.writeAll last records).flatten ↔
      ∀ entry ∈ records, logger.enabled entry.2.level →
        FieldValue.stripQuotes entry.2.message = entry.2.message := by
  induction records generalizing last with
  | nil => simp [writeAll]
  | cons entry records ih =>
      obtain ⟨time, r⟩ := entry
      simp only [List.map_cons, writeAll, snd_write_stripped, List.flatten_cons,
        List.forall_mem_cons]
      rw [← ih (logger.write last time r).2, ← write_stripped_eq_iff logger last time r]
      constructor
      · intro h
        have hlength := congrArg List.length h
        simp only [List.length_append] at hlength
        have hhead := length_write_stripped_le logger last time r
        have htail :=
          length_flatten_writeAll_stripped_le logger (logger.write last time r).2 records
        exact List.append_inj h (by omega)
      · rintro ⟨hhead, htail⟩
        rw [hhead, htail]

end Logger

namespace Event

theorem write_eq_write_record (logger : Logger) (last : Option Text) (time : Text) (e : Event) :
    write logger last time e = logger.write last time e.record := by
  have hfilter := logger.filter.allows_iff e.level
  by_cases hle : e.level.rank ≤ logger.filter.rank
  · have henabled : logger.enabled e.record.level = true := hfilter.mpr hle
    simp only [write, Logger.write, henabled, if_true, Nat.not_lt.mpr hle, if_false]
  · have hdisabled : logger.enabled e.record.level = false :=
      Bool.eq_false_iff.mpr fun h => hle (hfilter.mp h)
    simp only [write, Logger.write, hdisabled, Nat.not_le.mp hle, if_true]
    rfl

theorem writeAll_eq_writeAll_record (logger : Logger) (last : Option Text)
    (events : List (Text × Event)) :
    writeAll logger last events =
      logger.writeAll last (events.map fun entry => (entry.1, entry.2.record)) := by
  induction events generalizing last with
  | nil => rfl
  | cons entry events ih =>
      obtain ⟨time, e⟩ := entry
      simp only [writeAll, List.map_cons, Logger.writeAll, write_eq_write_record, ih]

def ofRecord (r : Record) : Event where
  level := r.level
  target := r.target
  message := some (.formatted r.message)

theorem record_ofRecord (r : Record) : (ofRecord r).record = r.stripped := rfl

/-- Events that carry nothing but a message are written like records, without the quotes that stand
around their messages. Their output is that of the records exactly if no message that is let through
stands between quotes. -/
theorem events_agree_with_records_iff (logger : Logger) (last : Option Text)
    (records : List (Text × Record)) :
    let written := writeAll logger last (records.map fun entry => (entry.1, ofRecord entry.2))
    written = logger.writeAll last (records.map fun entry => (entry.1, entry.2.stripped)) ∧
      (written.flatten = (logger.writeAll last records).flatten ↔
        ∀ entry ∈ records, logger.enabled entry.2.level →
          ∀ inner, entry.2.message ≠ '"' :: (inner ++ ['"'])) := by
  have hwritten :
      writeAll logger last (records.map fun entry => (entry.1, ofRecord entry.2)) =
        logger.writeAll last (records.map fun entry => (entry.1, entry.2.stripped)) := by
    simp only [writeAll_eq_writeAll_record, List.map_map, Function.comp_def, record_ofRecord]
  intro written
  refine ⟨hwritten, ?_⟩
  rw [show written = _ from hwritten, Logger.flatten_writeAll_stripped_eq_iff]
  simp only [FieldValue.stripQuotes_eq_self_iff]

theorem events_disagree_at_quoted_message :
    ¬ ∀ (logger : Logger) (records : List (Text × Record)),
      (writeAll logger none (records.map fun entry => (entry.1, ofRecord entry.2))).flatten =
        (logger.writeAll none records).flatten := by
  intro h
  have hquotes := h { filter := some .info, showTime := false }
    [([], ⟨.info, "oracle", ['"', 'h', 'i', '"']⟩)]
  revert hquotes
  decide

end Event

end ColorCalls
