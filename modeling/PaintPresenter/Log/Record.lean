/-!
# Log records

Programs report what they do as leveled records. A record names the channel it belongs to; the
presenter's own records and the graphics driver's messages use different channels, so that a
filter can treat them apart.
-/

namespace PaintPresenter

/-- Severity of a record, most severe first. -/
inductive LogLevel
  | error | warn | info | debug | trace
  deriving DecidableEq, Repr

namespace LogLevel

/-- Position in the order of detail: a filter at one level passes every level up to it. -/
def rank : LogLevel → Nat
  | error => 1
  | warn => 2
  | info => 3
  | debug => 4
  | trace => 5

/-- The name a record is written with. -/
def name : LogLevel → String
  | error => "ERROR"
  | warn => "WARN"
  | info => "INFO"
  | debug => "DEBUG"
  | trace => "TRACE"

/-- Reads a level name, in capitals. -/
def ofName? : String → Option LogLevel
  | "ERROR" => some error
  | "WARN" => some warn
  | "INFO" => some info
  | "DEBUG" => some debug
  | "TRACE" => some trace
  | _ => none

end LogLevel

/-- One log record. -/
structure LogRecord where
  level : LogLevel
  target : String
  text : String
  deriving DecidableEq, Repr

namespace LogRecord

/-- Channel of the presenter's own records. -/
def presenterChannel : String := "vkweb_engine"

/-- Channel of the messages that a graphics driver sends. -/
def driverChannel : String := "vkweb_engine::vulkan"

/-- The record as one line, with its channel. -/
def fullLine (r : LogRecord) : String :=
  s!"{r.level.name} {r.target} {r.text}"

/-- The record as one line; only driver messages name their channel. -/
def line (r : LogRecord) : String :=
  if r.target = driverChannel then r.fullLine else s!"{r.level.name} {r.text}"

end LogRecord

end PaintPresenter
