import Searchable.Entries
import Searchable.Level
import Searchable.Value

/-!
# Notes

A note tells the log what happened, how much it matters and what it was about. `Note.members` is
what a line of the log holds of it.
-/

namespace Searchable

/-- Something that is to be written to the log. -/
structure Note where
  /-- What names the logger. -/
  logger : Value
  /-- How much it matters. -/
  level : Level
  /-- What happened, if that is told. -/
  event : Value
  /-- What it was about. -/
  fields : Entries Value
  deriving Repr

namespace Note

/-- The field for the event of a note. -/
def eventName : String := "event"

/-- The field with the error that is being handled, or that says whether one is. -/
def handlingName : String := "exc_info"

/-- The field that brings along where a note was made. -/
def originName : String := "_record"

/-- The names under which no field is written. -/
def hiddenNames : List String :=
  ["stack_info", originName, "_from_structlog"]

/-- What a line holds. The event, the logger, the level and the time replace fields of their
names. -/
def members (time : String) (n : Note) : Entries Value :=
  let told :=
    match n.event with
    | .null => []
    | event => [(eventName, event)]
  ((told ++ [("logger", n.logger), ("level", .text n.level.name),
    ("timestamp", .text time)]).foldl (fun es e => es.put e.1 e.2) n.fields).filter fun e =>
      !hiddenNames.contains e.1

/-- The value of a field; one that is absent is nothing. -/
def field (n : Note) (name : String) : Value :=
  (n.fields.get? name).getD .null

end Note

end Searchable
