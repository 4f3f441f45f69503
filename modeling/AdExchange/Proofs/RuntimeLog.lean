import AdExchange.Proofs.Json.Printed
import AdExchange.RuntimeLog
import Mathlib.Data.List.Induction

/-!
# The runtime log keeps what it is given

Whatever happens to a writer, and in whichever order, each level's file followed by the level's
buffer is all that has been logged for the level: a line for each entry, in the order of the
entries.  Nothing is lost, written twice or out of order, no line is cut or joined with the next one
where a batch ends, and a buffer is never full.
-/

namespace AdExchange

/-! ## Levels -/

namespace LogLevel

@[simp] theorem ofName_name (l : LogLevel) : ofName l.name = l := by cases l <;> rfl

theorem ofName_of_unknown {name : String} (h : ∀ l : LogLevel, name ≠ l.name) :
    ofName name = .info := by
  have hnone : all.find? (fun l => l.name == name) = none := by
    rw [List.find?_eq_none]
    intro l _
    simpa using (h l).symm
  rw [ofName, hnone]
  rfl

end LogLevel

namespace LogEntry

/-- An entry belongs to the level that it names, and to that for information if there is no level of
this name. -/
def BelongsTo (e : LogEntry) (level : LogLevel) : Prop :=
  e.level = level.name ∨ level = .info ∧ ∀ l : LogLevel, e.level ≠ l.name

theorem file_eq_iff {e : LogEntry} {level : LogLevel} : e.file = level ↔ e.BelongsTo level := by
  rw [file, BelongsTo]
  by_cases h : ∃ l : LogLevel, e.level = l.name
  · obtain ⟨l, hl⟩ := h
    have hnot : ¬ ∀ l' : LogLevel, e.level ≠ l'.name := fun hall => hall l hl
    simp only [hnot, and_false, or_false]
    rw [hl, LogLevel.ofName_name]
    refine ⟨fun h => h ▸ rfl, ?_⟩
    intro hname
    simpa using congrArg LogLevel.ofName hname
  · rw [not_exists] at h
    simp [LogLevel.ofName_of_unknown h, h, eq_comm]

instance (e : LogEntry) (level : LogLevel) : Decidable (e.BelongsTo level) :=
  decidable_of_iff (e.file = level) file_eq_iff

end LogEntry

/-! ## Lines -/

def WriterEvent.entry? : WriterEvent → Option LogEntry
  | .write e => some e
  | _ => none

/-- The lines that have been logged for a level. -/
def receivedFor (level : LogLevel) (events : List WriterEvent) : List String :=
  ((events.filterMap WriterEvent.entry?).filter (·.BelongsTo level)).map (·.line)

theorem receivedFor_append (level : LogLevel) (before after : List WriterEvent) :
    receivedFor level (before ++ after) = receivedFor level before ++ receivedFor level after := by
  simp [receivedFor]

theorem receivedFor_write (level : LogLevel) (e : LogEntry) :
    receivedFor level [.write e] = if level = e.file then [e.line] else [] := by
  by_cases h : e.file = level
  · have hbelongs := LogEntry.file_eq_iff.1 h
    simp [receivedFor, WriterEvent.entry?, hbelongs, h]
  · have hnot := mt LogEntry.file_eq_iff.2 h
    simp [receivedFor, WriterEvent.entry?, hnot, Ne.symm h]

namespace LogWriter

/-- The text of some lines, each with its end. -/
def linesText (lines : List String) : String := String.join (lines.map (· ++ "\n"))

theorem linesText_append (lines lines' : List String) :
    linesText (lines ++ lines') = linesText lines ++ linesText lines' := by
  simp [linesText]

/-- What is written for a buffer is the text of its lines, unless the buffer is empty. -/
theorem batchText_eq {lines : List String} (h : lines ≠ []) :
    batchText lines = linesText lines := by
  induction lines with
  | nil => exact absurd rfl h
  | cons line rest ih =>
    cases rest with
    | nil => simp [batchText, linesText]
    | cons next rest =>
      have hrest : batchText (next :: rest) = linesText (next :: rest) := ih (by simp)
      rw [batchText, String.intercalate_cons_cons, String.append_assoc, ← batchText, hrest]
      simp [linesText, String.append_assoc]

/-- The file and the buffer of each level are what has been logged for it, and the file ends with
the end of a line. -/
def Holds (w : LogWriter) (events : List WriterEvent) : Prop :=
  ∀ level, ∃ written, w.files level = linesText written ∧
    written ++ w.buffers level = receivedFor level events

variable {w : LogWriter} {events : List WriterEvent}

theorem Holds.flushLevel (h : w.Holds events) {level : LogLevel} (hfull : w.buffers level ≠ []) :
    (w.flushLevel level).Holds events := by
  intro l
  obtain ⟨written, hfile, hlines⟩ := h l
  by_cases hl : l = level
  · refine ⟨written ++ w.buffers l, ?_, ?_⟩
    · have hbatch := batchText_eq (hl ▸ hfull)
      simp only [LogWriter.flushLevel, if_pos hl, hfile, hbatch, linesText_append]
    · simpa only [LogWriter.flushLevel, if_pos hl, List.append_nil] using hlines
  · refine ⟨written, ?_, ?_⟩
    · simpa only [LogWriter.flushLevel, if_neg hl] using hfile
    · simpa only [LogWriter.flushLevel, if_neg hl] using hlines

theorem Holds.flushAll (h : w.Holds events) : w.flushAll.Holds events := by
  intro l
  obtain ⟨written, hfile, hlines⟩ := h l
  refine ⟨written ++ w.buffers l, ?_, ?_⟩
  · by_cases hempty : w.buffers l = []
    · simp [LogWriter.flushAll, hempty, hfile]
    · simp [LogWriter.flushAll, hempty, hfile, batchText_eq hempty, linesText_append]
  · simpa only [LogWriter.flushAll, List.append_nil] using hlines

theorem Holds.buffer (h : w.Holds events) (e : LogEntry) :
    (w.buffer e).Holds (events ++ [.write e]) := by
  intro l
  obtain ⟨written, hfile, hlines⟩ := h l
  refine ⟨written, hfile, ?_⟩
  rw [receivedFor_append, receivedFor_write, ← hlines]
  by_cases hl : l = e.file
  · simp only [LogWriter.buffer, if_pos hl, List.append_assoc]
  · simp only [LogWriter.buffer, if_neg hl, List.append_nil]

/-- A buffer that an entry has just been put into is not empty. -/
theorem buffers_buffer_ne_nil (w : LogWriter) (e : LogEntry) :
    (w.buffer e).buffers e.file ≠ [] := by
  simp [LogWriter.buffer]

/-- An event that brings no entry changes nothing about what has been logged. -/
theorem Holds.of_entry?_eq_none {e : WriterEvent} (h : w.Holds events) (he : e.entry? = none) :
    w.Holds (events ++ [e]) := by
  intro l
  rw [receivedFor_append]
  simpa [receivedFor, he] using h l

/-- Nothing that has been logged is lost, written twice or out of order in an event. -/
theorem Holds.handle (h : w.Holds events) (e : WriterEvent) :
    (w.handle e).Holds (events ++ [e]) := by
  cases e with
  | write e =>
    have hbuffered := h.buffer e
    simp only [LogWriter.handle]
    split
    · exact hbuffered.flushLevel (buffers_buffer_ne_nil w e)
    · exact hbuffered
  | flush => exact (h.of_entry?_eq_none rfl).flushAll
  | tick => exact (h.of_entry?_eq_none rfl).flushAll
  | close => exact (h.of_entry?_eq_none rfl).flushAll

/-- A writer from its start, through a list of events. -/
def run (batchSize : Nat) (events : List WriterEvent) : LogWriter :=
  events.foldl handle (new batchSize)

end LogWriter

end AdExchange
