import Searchable.Registry
import Searchable.Schema.Compile
import Searchable.Signature

/-!
# Search requests

A query is what a caller asks for, and an inquiry how it is written; a request is what a finder is
given. `Registry.compile` makes a request of a query: it refuses options that the search itself
sets, looks up the schema, compiles the criteria, and joins the tokens of the caller's order or of
the usual one.
-/

namespace Searchable

/-- What a caller asks for. -/
structure Query where
  /-- The record type to search. -/
  recordType : Value
  /-- The values to search for, a map from request names. -/
  criteria : Value
  /-- The order of the answers; without one the usual order holds. -/
  order : Value
  /-- A further condition. -/
  additional : Value
  /-- Options for the finder. -/
  options : Entries Value
  deriving Repr

/-- A query as it is written: the record type and perhaps the criteria by place, and all else by
name. -/
structure Inquiry where
  /-- The record type to search. -/
  recordType : Value
  /-- The criteria, if they are given by place. -/
  criteria : Option Value
  /-- What is given by name. -/
  named : Entries Value
  deriving Repr

namespace Inquiry

/-- The parameter for the criteria. -/
def criteriaName : String := "criteria"

/-- The parameters that are filled by name only. -/
def namedParameters : List String :=
  ["order", "additional_conditions"]

/-- The parameters of an operation on queries. -/
def signature (operation : String) : Signature :=
  ⟨"SearchService." ++ operation, [receiver, "record_type"], [criteriaName], namedParameters, true⟩

/-- What is given for a parameter by name. -/
def argument (i : Inquiry) (name : String) : Value :=
  (i.named.get? name).getD .null

/-- The query that is written for an operation; nothing may be given twice. -/
def query (i : Inquiry) (operation : String) : Except Misuse Query := do
  (signature operation).check (if i.criteria.isSome then 3 else 2) i.named.names
  return ⟨i.recordType, i.criteria.getD (i.argument criteriaName), i.argument "order",
    i.argument "additional_conditions",
    i.named.filter fun e => !(criteriaName :: namedParameters).contains e.1⟩

end Inquiry

/-- What a finder is given. -/
structure Request where
  /-- The expression and its parameters, unless all records are asked for. -/
  conditions : Option (List Value)
  /-- The order of the answers. -/
  order : Option String
  /-- What to load along with each record. -/
  related : Value
  /-- The caller's options. -/
  options : Entries Value
  deriving Repr

/-- The options that the search itself sets, in the order in which they are looked for. -/
def reservedOptions : List String :=
  ["conditions", "include"]

/-- Refuses options that the search itself sets. -/
def checkOptions (options : Entries Value) : Except Failure Unit :=
  match reservedOptions.find? options.contains with
  | some name => .error (.ofCause (.argumentConflict (.text name)))
  | none => .ok ()

/-- A query whose parts have been read. -/
structure Prepared where
  /-- The schema of the record type. -/
  schema : Schema
  /-- The compiled condition. -/
  condition : Condition
  /-- The tokens of the order. -/
  order : List Value

namespace Prepared

/-- The event that reports a compiled query. -/
def event (p : Prepared) : Event :=
  .compiled p.schema.recordType p.condition.isEmpty p.condition.params.length

/-- The expression and parameters of a condition that does not always hold. -/
def conditions (p : Prepared) : Option (List Value) :=
  if p.condition.isEmpty then none else some p.condition.toValues

/-- The request of a query; the tokens of its order may turn out to be no texts. -/
def request (p : Prepared) (options : Entries Value) : Except Failure Request := do
  let order ← (Order.joined p.order).mapError .misuse
  return ⟨p.conditions, order, p.schema.eagerLoad, options⟩

end Prepared

/-- The tokens of the order that holds for a query. -/
def Schema.orderFor (s : Schema) (order : Value) : Except Misuse (List Value) :=
  match order with
  | .null => .ok s.order
  | _ => Order.tokens order

namespace Registry

/-- Reads the parts of a query, one after the other. -/
def prepare (r : Registry) (q : Query) : Except Failure Prepared := do
  checkOptions q.options
  let s ← r.get q.recordType
  let criteria ← (Criteria.ofValue q.criteria).mapError .misuse
  let c ← s.compile criteria q.additional
  -- That the tokens are texts is noticed when they are joined.
  let tokens ← (s.orderFor q.order).mapError .misuse
  return ⟨s, c, tokens⟩

/-- The request of a query, and what is reported on the way. -/
def compile (r : Registry) (q : Query) : Outcome Registry Request :=
  match r.prepare q with
  | .error e => .look r (.error e)
  | .ok p => ⟨r, p.request q.options, [p.event]⟩

end Registry

end Searchable
