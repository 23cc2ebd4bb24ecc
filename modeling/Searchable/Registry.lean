import Searchable.Inspector
import Searchable.Outcome
import Searchable.Settings.Search

/-!
# Registries

A registry holds one schema per record type. `Registry.register` accepts a declaration of a new
type if each column has a strategy and is either a column of the type or an alias; the first column
for which this fails is reported. A type that is already registered keeps its schema: the same
declaration is reported as a repetition, and another is ignored or, in a strict registry, refused.
-/

namespace Searchable

/-- The schemas of record types. -/
structure Registry where
  /-- What the names and the columns of record types are asked of. -/
  inspector : Inspector
  /-- The settings of the search. -/
  settings : SearchSettings
  /-- The schema of each record type, in the order of their registration. -/
  schemas : List (Value × Schema)

/-- The strategies of a declaration as a map. -/
def Declaration.strategyMap (d : Declaration) : Value :=
  .map (d.strategies.map fun e => (.text e.1, e.2))

/-- The aliases of a declaration as a map. -/
def Declaration.aliasMap (d : Declaration) : Value :=
  .map (d.aliases.map fun e => (.text e.1, e.2))

namespace Schema

/-- The strategies of a schema as a map. -/
def strategyMap (s : Schema) : Value :=
  .map (s.strategies.map fun e => (.text e.1, .strategy e.2))

/-- The aliases of a schema as a map. -/
def aliasMap (s : Schema) : Value :=
  .map (s.aliases.map fun e => (.text e.1, e.2))

/-- Whether a declaration says what a schema says. Its order is read only if its strategies are
those of the schema. -/
def declaredBy (s : Schema) (finder : Value) (d : Declaration) : Except Misuse Bool :=
  if Value.same s.strategyMap d.strategyMap then do
    let order ← Order.tokens d.order
    return Value.sameItems s.order order && Value.equal s.eagerLoad d.eagerLoad &&
      Value.same s.aliasMap d.aliasMap && Value.equal s.finder finder
  else .ok false

end Schema

namespace Registry

/-- A registry without schemas. -/
def empty (inspector : Inspector) (settings : SearchSettings) : Registry :=
  ⟨inspector, settings, []⟩

/-- Refuses a value that cannot be a key. -/
def checkKey (recordType : Value) : Except Failure Unit :=
  match recordType.unhashable? with
  | some kind => .error (.misuse (.unhashable kind))
  | none => .ok ()

/-- The schema of a record type, if it is registered. -/
def find? (r : Registry) (recordType : Value) : Option Schema :=
  Value.find? recordType r.schemas

/-- Whether a record type is registered. -/
def contains (r : Registry) (recordType : Value) : Except Failure Bool := do
  checkKey recordType
  return (r.find? recordType).isSome

/-- The schema of a record type, which has to be registered. -/
def get (r : Registry) (recordType : Value) : Except Failure Schema := do
  checkKey recordType
  match r.find? recordType with
  | some s => .ok s
  | none => do
    let name ← (r.inspector.typeName recordType).mapError .misuse
    .error (.ofCause (.schemaNotRegistered (.text name)))

/-- The names that a request for a record type may use. -/
def requestNames (r : Registry) (recordType : Value) : Except Failure (List String) := do
  let s ← r.get recordType
  return s.requestNames

/-- Refuses a column that is neither an alias nor a column of the record type, which has the given
name. -/
def checkColumn (r : Registry) (recordType : Value) (name : String) (aliases : Entries Value)
    (column : String) : Except Failure Unit := do
  if aliases.contains column then return
  let known ← (r.inspector.hasColumn recordType column).mapError .misuse
  if known then return
  else .error (.ofCause (.unknownColumn (.text column) (.text name)))

/-- The strategies of columns that are all accepted, column by column. -/
def acceptColumns (r : Registry) (recordType : Value) (name : String) (aliases : Entries Value) :
    Entries Value → Except Failure (Entries Strategy)
  | [] => .ok []
  | (column, v) :: rest => do
    let s ← Strategy.ofValue (.text column) v
    r.checkColumn recordType name aliases column
    let ss ← r.acceptColumns recordType name aliases rest
    return (column, s) :: ss

/-- The finder that a declaration asks for. -/
def finderOf (r : Registry) (d : Declaration) : Value :=
  d.finderOr r.settings.finder

/-- The schema of an acceptable declaration. -/
def build (r : Registry) (recordType : Value) (d : Declaration) : Except Failure Schema := do
  let name ← (r.inspector.typeName recordType).mapError .misuse
  let strategies ← r.acceptColumns recordType name d.aliases d.strategies
  let order ← (Order.tokens d.order).mapError .misuse
  return ⟨name, strategies, order, d.eagerLoad, d.aliases, r.finderOf d⟩

/-- Stores the schema of a record type that has none. -/
def store (r : Registry) (recordType : Value) (s : Schema) : Registry :=
  ⟨r.inspector, r.settings, r.schemas ++ [(recordType, s)]⟩

/-- Registers a record type that has no schema. -/
def registerNew (r : Registry) (recordType : Value) (d : Declaration) : Outcome Registry Schema :=
  match r.build recordType d with
  | .error e => .look r (.error e)
  | .ok s =>
    ⟨r.store recordType s, .ok s, [.registered s.recordType s.strategies.names s.finder]⟩

/-- Declares a record type again that has a schema, which does not change. -/
def registerAgain (r : Registry) (s : Schema) (d : Declaration) : Outcome Registry Schema :=
  match s.declaredBy (r.finderOf d) d with
  -- The order of the declaration is none. Columns are not checked again.
  | .error m => .look r (.error (.misuse m))
  | .ok true => ⟨r, .ok s, [.repeated s.recordType]⟩
  | .ok false =>
    if r.settings.strict.isTrue then
      .look r (.error (.ofCause (.alreadyRegistered s.recordType)))
    else ⟨r, .ok s, [.ignored s.recordType d.strategies.names]⟩

/-- Registers a record type with a declaration. -/
def register (r : Registry) (recordType : Value) (d : Declaration) : Outcome Registry Schema :=
  match checkKey recordType with
  | .error e => .look r (.error e)
  | .ok _ =>
    match r.find? recordType with
    | none => r.registerNew recordType d
    | some s => r.registerAgain s d

end Registry

end Searchable
