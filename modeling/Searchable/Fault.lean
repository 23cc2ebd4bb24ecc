import Searchable.Entries
import Searchable.Json.OfValue
import Searchable.Misuse

/-!
# Faults

What is wrong with a declaration, a request or a setting. A `Cause` says it with the data that the
message is made of; `Cause.kind` puts it into the hierarchy of kinds, each with a code for programs
to read. A `Fault` is a cause with an optional code of its own and a description of the error that
led to it. `Fault.entries` is its record, `Fault.text` that record as interchange text.
-/

namespace Searchable

/-- The kinds of faults. -/
inductive Kind where
  /-- Any fault. -/
  | base
  /-- A declaration is refused. -/
  | registration
  /-- A column is declared with something that is no strategy. -/
  | invalidStrategy
  /-- A declared column is neither a column of the record type nor an alias. -/
  | unknownColumn
  /-- A request is refused. -/
  | search
  /-- A request passes an option that the search itself sets. -/
  | argumentConflict
  /-- A request names a column that is not declared. -/
  | unknownSearchColumn
  /-- A range column is given something that is not a pair of bounds. -/
  | invalidRange
  /-- The store has no finder of the declared name. -/
  | finderNotFound
  /-- The record type is not declared. -/
  | schemaNotRegistered
  /-- The configuration is wrong. -/
  | config
  /-- A required setting is absent. -/
  | missingSetting
  /-- A setting has a value that makes no sense. -/
  | invalidSetting
  deriving DecidableEq, Repr

namespace Kind

/-- The name of a kind. -/
def name : Kind → String
  | base => "BaseError"
  | registration => "RegistrationError"
  | invalidStrategy => "InvalidStrategyError"
  | unknownColumn => "UnknownColumnError"
  | search => "SearchError"
  | argumentConflict => "ArgumentConflictError"
  | unknownSearchColumn => "UnknownSearchColumnError"
  | invalidRange => "InvalidRangeValueError"
  | finderNotFound => "FinderNotFoundError"
  | schemaNotRegistered => "SchemaNotRegisteredError"
  | config => "ConfigError"
  | missingSetting => "MissingRequiredSettingError"
  | invalidSetting => "InvalidSettingValueError"

/-- The code of a fault that is not given another. -/
def code : Kind → String
  | base => "base_error"
  | registration => "registration_error"
  | invalidStrategy => "invalid_strategy"
  | unknownColumn => "unknown_column"
  | search => "search_error"
  | argumentConflict => "argument_conflict"
  | unknownSearchColumn => "unknown_search_column"
  | invalidRange => "invalid_range_value"
  | finderNotFound => "finder_not_found"
  | schemaNotRegistered => "schema_not_registered"
  | config => "config_error"
  | missingSetting => "missing_required_setting"
  | invalidSetting => "invalid_setting_value"

/-- The kinds to which a fault of this kind belongs, the narrowest first. -/
def lineage : Kind → List Kind
  | base => [base]
  | registration => [registration, base]
  | invalidStrategy => [invalidStrategy, registration, base]
  | unknownColumn => [unknownColumn, registration, base]
  | search => [search, base]
  | argumentConflict => [argumentConflict, search, base]
  | unknownSearchColumn => [unknownSearchColumn, search, base]
  | invalidRange => [invalidRange, search, base]
  | finderNotFound => [finderNotFound, search, base]
  | schemaNotRegistered => [schemaNotRegistered, search, base]
  | config => [config, base]
  | missingSetting => [missingSetting, config, base]
  | invalidSetting => [invalidSetting, config, base]

/-- All kinds. -/
def all : List Kind :=
  [base, registration, invalidStrategy, unknownColumn, search, argumentConflict,
    unknownSearchColumn, invalidRange, finderNotFound, schemaNotRegistered, config, missingSetting,
    invalidSetting]

/-- The kind of a name. -/
def ofName? (name : String) : Option Kind :=
  all.find? fun k => k.name = name

/-- Whether a fault of the first kind is also one of the second. -/
def isA (k ancestor : Kind) : Bool :=
  k.lineage.contains ancestor

/-- The place where a kind is declared. -/
def place (k : Kind) : String :=
  if k.isA .registration then "mp_search.kernel.errors.registration"
  else if k.isA .search then "mp_search.kernel.errors.query"
  else if k.isA .config then "mp_search.config.validation.errors"
  else "mp_search.kernel.errors.base"

/-- The names of all kinds of errors to which a fault of this kind belongs, the narrowest first. A
fault of a declaration or of a request is also an error about a value. -/
def ancestry (k : Kind) : List String :=
  k.lineage.map name ++
    (if k.isA registration || k.isA search then ["ValueError"] else []) ++
    ["Exception", "BaseException"]

/-- The name of a kind after the place where the kind is declared. -/
def fullName (k : Kind) : String :=
  k.place ++ "." ++ k.name

end Kind

/-- Why something is refused. -/
inductive Cause where
  /-- A fault of a general kind with a message and details of its own. -/
  | general (kind : Kind) (message : Value) (detail : List (Value × Value))
  /-- The strategy of a column is none. -/
  | invalidStrategy (column strategy : Value)
  /-- A declared column is unknown to its record type. -/
  | unknownColumn (column recordType : Value)
  /-- A record type is declared again with another declaration. -/
  | alreadyRegistered (recordType : String)
  /-- The option is set by the search itself. -/
  | argumentConflict (key : Value)
  /-- The requested column is not declared. -/
  | unknownSearchColumn (column : Value)
  /-- The value of a range column is not a pair of bounds; `reason` replaces the usual message. -/
  | invalidRange (column strategy value reason : Value)
  /-- The store has no such finder. -/
  | finderNotFound (finder store : Value)
  /-- The record type is not declared. -/
  | schemaNotRegistered (recordType : Value)
  /-- Settings could not be made from what was read. -/
  | loadFailed (reason : String)
  /-- A required setting is absent. -/
  | missingSetting (name : Value)
  /-- A setting's value makes no sense. -/
  | invalidSetting (name value reason : Value)
  deriving Repr

namespace Cause

/-- The kind of a cause. -/
def kind : Cause → Kind
  | general kind _ _ => kind
  | invalidStrategy _ _ => .invalidStrategy
  | unknownColumn _ _ => .unknownColumn
  | alreadyRegistered _ => .registration
  | argumentConflict _ => .argumentConflict
  | unknownSearchColumn _ => .unknownSearchColumn
  | invalidRange _ _ _ _ => .invalidRange
  | finderNotFound _ _ => .finderNotFound
  | schemaNotRegistered _ => .schemaNotRegistered
  | loadFailed _ => .config
  | missingSetting _ => .missingSetting
  | invalidSetting _ _ _ => .invalidSetting

/-- What is wrong, in words. -/
def message : Cause → Value
  | general _ message _ => message
  | invalidStrategy _ strategy => .text ("Unknown search column type [" ++ strategy.shown ++ "]")
  | unknownColumn column _ => .text ("Unknown column name [" ++ column.shown ++ "]")
  | alreadyRegistered recordType =>
    .text (recordType ++ " is already registered with a different search schema")
  | argumentConflict key => .text ("Search method cannot use [" ++ key.shown ++ "] key")
  | unknownSearchColumn column => .text ("Unknown column \"" ++ column.shown ++ "\" in settings")
  | invalidRange column strategy _ reason =>
    if reason.isTrue then reason
    else .text (strategy.shown ++ " column [" ++ column.shown ++
      "] value must be a (from, to) pair")
  | finderNotFound finder store =>
    .text (store.shown ++ " has no finder [" ++ finder.shown ++ "]")
  | schemaNotRegistered recordType =>
    .text (recordType.shown ++ " has no registered search schema")
  | loadFailed reason => .text ("Failed to load settings: " ++ reason)
  | missingSetting name => .text ("Required setting '" ++ name.shown ++ "' is missing")
  | invalidSetting name value reason =>
    .text ("Setting '" ++ name.shown ++ "' has invalid value " ++ value.shownLiteral ++ ": " ++
      reason.shown)

/-- The data of a cause, by name. -/
def detail : Cause → List (Value × Value)
  | general _ _ detail => detail
  | invalidStrategy column strategy =>
    [(.text "column", column), (.text "strategy", .text strategy.shown)]
  | unknownColumn column recordType =>
    [(.text "column", column), (.text "record_type", recordType)]
  | alreadyRegistered recordType => [(.text "record_type", .text recordType)]
  | argumentConflict key => [(.text "key", key)]
  | unknownSearchColumn column => [(.text "column", column)]
  | invalidRange column strategy value _ =>
    [(.text "column", column), (.text "strategy", strategy),
      (.text "value", .text value.shownLiteral)]
  | finderNotFound finder store => [(.text "finder", finder), (.text "executor", store)]
  | schemaNotRegistered recordType => [(.text "record_type", recordType)]
  | loadFailed _ | missingSetting _ | invalidSetting _ _ _ => []

/-- The forms of values that the message and the data show, in the order in which they are made. -/
def shownForms : Cause → List (Except Unwritable String)
  | general _ _ _ | alreadyRegistered _ | loadFailed _ => []
  | invalidStrategy _ strategy => [strategy.plain]
  | unknownColumn column _ => [column.plain]
  | argumentConflict key => [key.plain]
  | unknownSearchColumn column => [column.plain]
  | invalidRange column strategy value reason =>
    (if reason.isTrue then [] else [strategy.plain, column.plain]) ++ [value.literal]
  | finderNotFound finder store => [store.plain, finder.plain]
  | schemaNotRegistered recordType => [recordType.plain]
  | missingSetting name => [name.plain]
  | invalidSetting name value reason => [name.plain, value.literal, reason.plain]

/-- Refuses a cause that would show a form of a value that has none. -/
def checkShown (c : Cause) : Except Misuse Unit :=
  c.shownForms.forM fun form => (form.map fun _ => ()).mapError .unwritable

/-- The values that a cause keeps as they were given, by name. -/
def attributes : Cause → Entries Value
  | general _ _ _ | alreadyRegistered _ | loadFailed _ => []
  | invalidStrategy column strategy => [("column", column), ("strategy", strategy)]
  | unknownColumn column recordType => [("column", column), ("record_type", recordType)]
  | argumentConflict key => [("key", key)]
  | unknownSearchColumn column => [("column", column)]
  | invalidRange column strategy value _ =>
    [("column", column), ("strategy", strategy), ("value", value)]
  | finderNotFound finder store => [("finder", finder), ("executor", store)]
  | schemaNotRegistered recordType => [("record_type", recordType)]
  | missingSetting name => [("setting_name", name)]
  | invalidSetting name value reason =>
    [("value", value), ("setting_name", name), ("reason", reason)]

end Cause

/-- A cause with what its reporter adds. -/
structure Fault where
  /-- Why something is refused. -/
  cause : Cause
  /-- A code in place of that of the kind; one that does not count as true is none. -/
  ownCode : Value
  /-- The error that led to this one. -/
  origin : Option ErrorView
  deriving Repr

namespace Fault

/-- The fault of a cause with nothing added. -/
def ofCause (c : Cause) : Fault :=
  ⟨c, .null, none⟩

/-- The code of a fault. -/
def code (f : Fault) : Value :=
  if f.ownCode.isTrue then f.ownCode else .text f.cause.kind.code

/-- The record of a fault, in which an error that led to it has its literal form. -/
def entries (f : Fault) : Except Unwritable (Entries Value) := do
  let origin ← f.origin.mapM ErrorView.literal
  return [("code", f.code), ("message", f.cause.message), ("detail", .map f.cause.detail)] ++
    (origin.map fun o => ("cause", Value.text o)).toList

/-- The record of a fault as one value. -/
def record (f : Fault) : Except Unwritable Value :=
  f.entries.map fun es => .map (es.map fun e => (.text e.1, e.2))

/-- The record of a fault as interchange text, in which values that the format does not know show
their plain form. -/
def text (f : Fault) : Except Unwritable String := do
  let record ← f.record
  let j ← record.toJson Value.plain
  return j.write .plain

/-- A fault in short: its kind, code and message. -/
def literal (f : Fault) : Except Unwritable String := do
  let code ← f.code.literal
  let message ← f.cause.message.literal
  return f.cause.kind.name ++ "(code=" ++ code ++ ", message=" ++ message ++ ")"

end Fault

/-- An operation that did not succeed: something was refused, or a value was misused. -/
inductive Failure where
  /-- Something was refused. -/
  | fault (f : Fault)
  /-- A value had a shape without a use. -/
  | misuse (m : Misuse)
  deriving Repr

namespace Failure

/-- The refusal for a cause, unless what it would show has no text. -/
def ofCause (c : Cause) : Failure :=
  match c.checkShown with
  | .ok _ => .fault (.ofCause c)
  | .error m => .misuse m

end Failure

end Searchable
