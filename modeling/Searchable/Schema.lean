import Searchable.Fault
import Searchable.Order

/-!
# Search schemas

A declaration says how a record type is searched: a strategy per column, expressions that stand in
for columns, the usual order, the relations to load, and the finder to call. A schema is a
declaration whose strategies and order have been read. `Schema.requestNames` lists the names that
a request may use, two for a range column.
-/

namespace Searchable

/-- The ending of the request name for the lower bound of a range column. -/
def lowEnding : String := "_from"

/-- The ending of the request name for the upper bound of a range column. -/
def highEnding : String := "_to"

/-- The finder that is called unless another is declared. -/
def usualFinder : String := "find_all"

/-- The strategy that a value is the name of. -/
def Strategy.named (v : Value) : Except Misuse Strategy :=
  match v.text?.bind ofName? with
  | some s => .ok s
  | none => .error (v.misusedAs .notStrategy)

/-- The strategy that a column is declared with: a strategy itself or the name of one. -/
def Strategy.ofValue (column : Value) (v : Value) : Except Failure Strategy :=
  match v with
  | .strategy s => .ok s
  | .text name =>
    match ofName? name with
    | some s => .ok s
    | none => .error (.ofCause (.invalidStrategy column v))
  | _ => .error (.ofCause (.invalidStrategy column v))

/-- How a record type is to be searched, as it is written. -/
structure Declaration where
  /-- A strategy or its name for each column. -/
  strategies : Entries Value
  /-- The usual order. -/
  order : Value
  /-- What to load along with each record. -/
  eagerLoad : Value
  /-- The expressions that stand in for columns. -/
  aliases : Entries Value
  /-- The finder to call; a value that does not count as true means the usual one. -/
  finder : Value
  deriving Repr

/-- The declared finder, or another where none is named. -/
def Declaration.finderOr (d : Declaration) (other : Value) : Value :=
  if d.finder.isTrue then d.finder else other

/-- How a record type is searched. -/
structure Schema where
  /-- The name of the record type. -/
  recordType : String
  /-- The strategy of each column, in the order of declaration. -/
  strategies : Entries Strategy
  /-- The tokens of the usual order. -/
  order : List Value
  /-- What to load along with each record. -/
  eagerLoad : Value
  /-- The expressions that stand in for columns. -/
  aliases : Entries Value
  /-- The finder to call. -/
  finder : Value
  deriving Repr

namespace Schema

/-- The strategies of all columns, read one by one. -/
def readStrategies : Entries Value → Except Failure (Entries Strategy)
  | [] => .ok []
  | (column, v) :: rest => do
    let s ← Strategy.ofValue (.text column) v
    let ss ← readStrategies rest
    return (column, s) :: ss

/-- The schema of a declaration, given the name of the record type and the finder. -/
def ofDeclaration (recordType : String) (finder : Value) (d : Declaration) :
    Except Failure Schema := do
  let strategies ← readStrategies d.strategies
  let order ← (Order.tokens d.order).mapError .misuse
  return ⟨recordType, strategies, order, d.eagerLoad, d.aliases, finder⟩

/-- What is searched for a column: the expression that stands in for it, or the column itself as it
is written. -/
def targetOf (s : Schema) (column : String) (written : Value) : Value :=
  (s.aliases.get? column).getD written

/-- What is searched for a column that is written as a text. -/
def target (s : Schema) (column : String) : Value :=
  s.targetOf column (.text column)

/-- The names under which a request may mention a column of the given strategy. -/
def namesOf (column : String) (strategy : Strategy) : List String :=
  if strategy.isRange then [column ++ lowEnding, column ++ highEnding] else [column]

/-- The names that a request may use, in the order of declaration. -/
def requestNames (s : Schema) : List String :=
  s.strategies.flatMap fun e => namesOf e.1 e.2

/-- The strategies of the range columns. -/
def ranges (s : Schema) : Entries Strategy :=
  s.strategies.filter fun e => e.2.isRange

end Schema

end Searchable
