import Searchable.Note
import Searchable.Signature

/-!
# Loggers

A logger has a name, and fields that it adds to every note. A logger without fields of its own is
set up when it is first used; until then it answers some calls itself. What a logger can be called
for is an `Ability`: parameters and a task.
-/

namespace Searchable

/-- A source of notes. -/
structure Logger where
  /-- Its name. -/
  name : String
  /-- The fields that it adds to every note. -/
  bound : Entries Value
  deriving Repr

/-- What a logger does when it is called. -/
inductive Task where
  /-- Notes something at a level. -/
  | note (level : Level)
  /-- Notes the error that is being handled. -/
  | noteFailure
  /-- Notes something at the level of a number. -/
  | noteAt
  /-- Notes something at the level of a name. -/
  | noteNamed
  /-- Leaves a field out from then on; an unknown one is refused if `known` holds. -/
  | forget (known : Bool)
  /-- Sets the threshold. -/
  | setThreshold
  /-- Compares a number with the threshold. -/
  | compare
  /-- Gives another logger, whose name goes on. -/
  | child
  /-- Handles a record of a note. -/
  | handle
  /-- Takes up a state that was saved. -/
  | restore
  /-- Does something that does not show. -/
  | quiet
  deriving DecidableEq, Repr

/-- The number of parameters that a call of a logger fills by place: the logger itself and, unless
any number of values is taken, the one value. -/
def Task.filled : Task → Nat
  | .forget _ => 1
  | _ => 2

/-- Something that a logger can be called for. -/
structure Ability where
  /-- Its parameters. -/
  signature : Signature
  /-- What is done. -/
  task : Task
  deriving Repr

namespace Logger

/-- The name of the logger that has none. -/
def rootName : String := "root"

/-- The name of a logger that may have none. -/
def nameOr (name : Option String) : String :=
  match name with
  | some n => if n = "" then rootName else n
  | none => rootName

/-- Whether a logger is set up from the start. -/
def isSetUp (l : Logger) : Bool :=
  !l.bound.isEmpty

/-- Whether a logger is the one without a name. -/
def isRoot (l : Logger) : Bool :=
  l.name = rootName

/-- The kind of loggers that are set up. -/
def readyKind : String := "BoundLogger"

/-- The kind of loggers that are not set up. -/
def lazyKind : String := "BoundLoggerLazyProxy"

/-- The kind of what every logger is based on. -/
def baseKind : String := "BoundLoggerBase"

/-- The kind of a logger. -/
def kind (l : Logger) : String :=
  if l.isSetUp then readyKind else lazyKind

/-- The kind of what keeps the threshold of a logger. -/
def coreKind (l : Logger) : String :=
  if l.isRoot then "RootLogger" else "_FixedFindCallerLogger"

end Logger

end Searchable
