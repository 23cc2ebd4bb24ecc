import Searchable.Entries
import Searchable.Level
import Searchable.Value

/-!
# Events

What a registry and a search report while they work. An event has a level, a name, and fields that
say what it was about.
-/

namespace Searchable

/-- Something that happened and is worth reporting. -/
inductive Event where
  /-- A record type was declared. -/
  | registered (recordType : String) (columns : List String) (finder : Value)
  /-- A record type was declared again in the same way. -/
  | repeated (recordType : String)
  /-- A record type was declared again in another way, which has no effect. -/
  | ignored (recordType : String) (columns : List String)
  /-- The criteria of a search became a condition. -/
  | compiled (recordType : String) (empty : Bool) (params : Nat)
  /-- The finder of a search is about to be called. -/
  | dispatched (finder : Value)
  deriving Repr

namespace Event

/-- The level of an event. -/
def level : Event → Level
  | registered _ _ _ => .info
  | ignored _ _ => .warning
  | repeated _ | compiled _ _ _ | dispatched _ => .debug

/-- The name of an event; that of a repeated declaration does not say whether it had an effect. -/
def name : Event → String
  | registered _ _ _ => "search_schema_registered"
  | repeated _ | ignored _ _ => "search_schema_reregistered"
  | compiled _ _ _ => "search_compiled"
  | dispatched _ => "search_dispatched"

/-- A list of names as a value. -/
def nameList (names : List String) : Value :=
  .list (names.map .text)

/-- What an event was about, by name. -/
def fields : Event → Entries Value
  | registered recordType columns finder =>
    [("record_type", .text recordType), ("columns", nameList columns), ("finder", finder)]
  | repeated recordType => [("record_type", .text recordType)]
  | ignored recordType columns =>
    [("record_type", .text recordType), ("ignored_columns", nameList columns)]
  | compiled recordType empty params =>
    [("record_type", .text recordType), ("empty", .bool empty), ("params", .int params)]
  | dispatched finder => [("finder", finder)]

end Event

end Searchable
