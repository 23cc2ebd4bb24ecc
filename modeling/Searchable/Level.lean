/-!
# Levels of events

How much an event matters. An event is written when its level is at least the one that is set, and
the levels compare by their numbers.
-/

namespace Searchable

/-- How much an event matters. -/
inductive Level where
  /-- Of use to those who look for a defect. -/
  | debug
  /-- Worth knowing. -/
  | info
  /-- Something may be wrong. -/
  | warning
  /-- Something is wrong. -/
  | error
  /-- Nothing works any more. -/
  | critical
  deriving DecidableEq, Repr

namespace Level

/-- All levels, from the least. -/
def all : List Level :=
  [debug, info, warning, error, critical]

/-- The name of a level in log lines. -/
def name : Level → String
  | debug => "debug"
  | info => "info"
  | warning => "warning"
  | error => "error"
  | critical => "critical"

/-- The name of a level in settings. -/
def label : Level → String
  | debug => "DEBUG"
  | info => "INFO"
  | warning => "WARNING"
  | error => "ERROR"
  | critical => "CRITICAL"

/-- The number of a level. -/
def number : Level → Nat
  | debug => 10
  | info => 20
  | warning => 30
  | error => 40
  | critical => 50

/-- The level with a label. -/
def ofLabel? (label : String) : Option Level :=
  all.find? fun l => l.label = label

/-- The level with a name. -/
def ofName? (name : String) : Option Level :=
  all.find? fun l => l.name = name

/-- The labels in alphabetical order. -/
def labels : List String :=
  ["CRITICAL", "DEBUG", "ERROR", "INFO", "WARNING"]

/-- The labels tell the levels apart. -/
theorem ofLabel?_label (l : Level) : ofLabel? l.label = some l := by
  cases l <;> decide

end Level

end Searchable
