import AdExchange.Json.Printer
import AdExchange.Text.Uppercase

/-!
# The runtime log

Entries are written to one file per level.  They are buffered, and a level's buffer is written out
when it is full; all buffers are written out at every tick of a clock, on request, and when the log
is closed.  An entry whose level is unknown goes to the file for information.

## Main definitions

* `LogLevel`, `LogEntry` — what is logged.
* `LogWriter` — files and buffers; `LogWriter.handle` is one event in its life.
* `RuntimeLog` — a writer in time.
* `expired` — a file is old enough to be removed.
-/

namespace AdExchange

/-- The levels that have a file of their own. -/
inductive LogLevel where
  | trace
  | debug
  | info
  | warn
  | error
  deriving DecidableEq, Repr, Inhabited

namespace LogLevel

def all : List LogLevel := [.trace, .debug, .info, .warn, .error]

def name : LogLevel → String
  | .trace => "TRACE"
  | .debug => "DEBUG"
  | .info => "INFO"
  | .warn => "WARN"
  | .error => "ERROR"

/-- The level whose file an entry with this level's name goes to. -/
def ofName (name : String) : LogLevel :=
  (all.find? fun l => l.name == name).getD .info

end LogLevel

/-- What is logged.  The level is kept as it is named, also if it is unknown. -/
structure LogEntry where
  level : String
  message : Json
  /-- The time of day, if entries are to have it. -/
  timestamp : Option String := none
  deriving Inhabited

namespace LogEntry

/-- The entry of a level, which is named in capitals, and a message. -/
def of (level : String) (message : Json) (timestamp : Option String := none) : LogEntry :=
  ⟨uppercase level, message, timestamp⟩

/-- The file that an entry goes to. -/
def file (e : LogEntry) : LogLevel := .ofName e.level

/-- The line that an entry is written as. -/
def line (e : LogEntry) : String :=
  (Json.ofFields
    [("level", some (.string e.level)), ("message", some e.message),
     ("timestamp", e.timestamp.map .string)]).text

end LogEntry

/-- Files and buffers of a log. -/
structure LogWriter where
  /-- How many entries a buffer is full with; at least one. -/
  batchSize : Nat
  /-- What is in the file of each level. -/
  files : LogLevel → String := fun _ => ""
  /-- The lines that are not yet written. -/
  buffers : LogLevel → List String := fun _ => []

/-- What happens to a writer. -/
inductive WriterEvent where
  | write (entry : LogEntry)
  /-- All buffers are to be written out. -/
  | flush
  /-- The clock ticks. -/
  | tick
  /-- No more entries come. -/
  | close

namespace LogWriter

/-- A writer with empty files; a buffer holds one entry at least. -/
def new (batchSize : Nat) : LogWriter := { batchSize := max batchSize 1 }

/-- What is written for the lines of a buffer. -/
def batchText (lines : List String) : String := "\n".intercalate lines ++ "\n"

/-- Writes out the buffer of a level. -/
def flushLevel (w : LogWriter) (level : LogLevel) : LogWriter where
  batchSize := w.batchSize
  files := fun l => if l = level then w.files l ++ batchText (w.buffers l) else w.files l
  buffers := fun l => if l = level then [] else w.buffers l

/-- Writes out all buffers that are not empty. -/
def flushAll (w : LogWriter) : LogWriter where
  batchSize := w.batchSize
  files := fun l =>
    if (w.buffers l).isEmpty then w.files l else w.files l ++ batchText (w.buffers l)
  buffers := fun _ => []

/-- Puts an entry into the buffer of its file. -/
def buffer (w : LogWriter) (e : LogEntry) : LogWriter :=
  { w with buffers := fun l => if l = e.file then w.buffers l ++ [e.line] else w.buffers l }

/-- One event in the life of a writer. -/
def handle (w : LogWriter) : WriterEvent → LogWriter
  | .write e =>
    let w := w.buffer e
    if w.batchSize ≤ (w.buffers e.file).length then w.flushLevel e.file else w
  | .flush => w.flushAll
  | .tick => w.flushAll
  | .close => w.flushAll

end LogWriter

/-- A writer in time. -/
structure RuntimeLog where
  writer : LogWriter
  /-- The time between two ticks, in milliseconds; at least one. -/
  interval : Nat
  now : Nat := 0
  /-- The log is closed; nothing is logged any more and the clock does not tick. -/
  closed : Bool := false
  /-- The time of day at a time of the log, if entries are to have it. -/
  timeOfDay : Nat → Option String := fun _ => none

namespace RuntimeLog

/-- A log that starts at time zero, with a tick. -/
def new (batchSize interval : Nat) : RuntimeLog :=
  { writer := (LogWriter.new batchSize).handle .tick, interval := max interval 1 }

/-- Something happens to the writer, unless the log is closed. -/
def handle (l : RuntimeLog) (e : WriterEvent) : RuntimeLog :=
  if l.closed then l else { l with writer := l.writer.handle e }

def log (l : RuntimeLog) (level : String) (message : Json) : RuntimeLog :=
  l.handle (.write (.of level message (l.timeOfDay l.now)))

/-- Writes out everything that is logged. -/
def flush (l : RuntimeLog) : RuntimeLog := l.handle .flush

/-- Lets time pass.  If the clock ticks in it, however often, everything is written out. -/
def elapse (l : RuntimeLog) (ms : Nat) : RuntimeLog :=
  let later := l.now + ms
  let l := if l.now / l.interval < later / l.interval then l.handle .tick else l
  { l with now := later }

def close (l : RuntimeLog) : RuntimeLog := { l.handle .close with closed := true }

end RuntimeLog

/-- How long a file is kept, in hours. -/
def retentionHours : Nat := 72

/-- A file of this age is removed. -/
def expired (ageHours : Nat) : Bool := retentionHours ≤ ageHours

end AdExchange
