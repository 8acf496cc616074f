import PaintPresenter.Log.Filter
import PaintPresenter.Log.Plain

/-!
# The logger

A process has one logger. It is started once, with a filter from its settings, else from the
environment, else up to informative records; later starts change nothing. Before the start nothing
is written. What is written are lines: a record is written with a heading, the later lines of its
text are indented, and it loses what would control a terminal.
-/

namespace PaintPresenter

/-- When levels are written in color. -/
inductive ColorUse
  /-- On a terminal. -/
  | auto
  | always
  | never
  deriving DecidableEq, Repr

/-- How a logger is started. -/
structure LogSettings where
  /-- A filter in writing; without one the environment decides. -/
  filter : Option String := none
  colors : ColorUse := .auto
  deriving DecidableEq, Repr

/-- The filter that settings and environment come to. -/
def LogSettings.effective (settings : LogSettings) (environment : Option String) :
    LogFilterReading :=
  match settings.filter, environment with
  | some text, _ | none, some text => LogFilter.read text
  | none, none => ⟨LogFilter.upTo .info, []⟩

/-- A line that was written; the time is not part of it. -/
structure LogLine where
  /-- Level and target, on the first line of a record. -/
  heading : String := ""
  text : String
  deriving DecidableEq, Repr

namespace LogLine

/-- What goes before the later lines of a text. -/
def indentation : String := "    "

/-- The heading of a record; an empty target is not written. -/
def headingOf (record : LogRecord) : String :=
  if record.target.isEmpty then record.level.name else s!"{record.level.name} {record.target}"

/-- The lines of a record. -/
def ofRecord (record : LogRecord) : List LogLine :=
  let text := ("\n" ++ indentation).intercalate (record.text.splitOn "\n")
  match Text.lines (Plain.plain text ++ "\n") with
  | [] => []
  | first :: later => ⟨headingOf record, first⟩ :: later.map fun text => { text }

/-- The lines of a warning about a filter. -/
def ofComplaint (c : LogFilterComplaint) : List LogLine :=
  (Text.lines c.warning).map fun text => { text }

end LogLine

/-- A logger and the lines that it wrote. -/
structure Logger where
  /-- Nothing before the start. -/
  filter : Option LogFilter := none
  /-- Oldest first. -/
  written : List LogLine := []

namespace Logger

/-- Writes a record that passes the filter. -/
def write (record : LogRecord) (l : Logger) : Logger :=
  if l.filter.any (·.passes record) then { l with written := l.written ++ LogLine.ofRecord record }
  else l

/-- The logger's own record. -/
def started : LogRecord := ⟨.debug, "vkweb_engine::logging::init", "logging initialized"⟩

/-- Starts the logger, unless it was started before. -/
def start (settings : LogSettings) (environment : Option String) (l : Logger) : Logger :=
  match l.filter with
  | some _ => l
  | none =>
    let reading := settings.effective environment
    let warnings := reading.complaints.flatMap LogLine.ofComplaint
    { filter := some reading.filter, written := l.written ++ warnings : Logger }.write started

end Logger

end PaintPresenter
