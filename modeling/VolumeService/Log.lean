/-! # The log

* **Levels.** Six severities; a smaller number is more severe (`Level.severity`).
* **Filter and sink.** A record is handed to the sink in force when its level is at least as
  severe as the filter level, and is lost otherwise (`Config.recipient`).  There may be no
  sink; then every record is lost.
* **Records** are a level and a text. -/

namespace VolumeService

/-- How severe a log record is. -/
inductive Level where
  | fatal
  | error
  | warn
  | info
  | debug
  | trace
deriving DecidableEq, Repr

namespace Level

/-- The rank of a level; smaller is more severe. -/
def severity : Level → Nat
  | fatal => 0
  | error => 1
  | warn => 2
  | info => 3
  | debug => 4
  | trace => 5

/-- The label of a level, five characters wide. -/
def label : Level → String
  | fatal => "FATAL"
  | error => "ERROR"
  | warn => "WARN "
  | info => "INFO "
  | debug => "DEBUG"
  | trace => "TRACE"

/-- The label of a level up to the blanks that pad it. -/
def display (level : Level) : String :=
  String.ofList (level.label.toList.takeWhile (· ≠ ' '))

/-- The order of two levels by severity. -/
def compare (a b : Level) : Ordering := Ord.compare a.severity b.severity

/-- Is `a` at least as severe as `b`? -/
def AtLeast (a b : Level) : Prop := a.severity ≤ b.severity

instance (a b : Level) : Decidable (AtLeast a b) :=
  inferInstanceAs (Decidable (a.severity ≤ b.severity))

theorem atLeast_trace (a : Level) : a.AtLeast trace := by
  cases a <;> decide

end Level

namespace Log

/-- One message with its level. -/
structure Record where
  level : Level
  text : String
deriving DecidableEq, Repr

/-- A place that log records are sent to, known by its label. -/
structure Sink where
  label : String
deriving DecidableEq, Repr

/-- The filter level and the sink in force. -/
structure Config where
  threshold : Level := .trace
  sink : Option Sink := none
deriving DecidableEq, Repr

/-- The sink that a record of this level reaches, if any. -/
def Config.recipient (config : Config) (level : Level) : Option Sink :=
  if level.AtLeast config.threshold then config.sink else none

end Log

end VolumeService
