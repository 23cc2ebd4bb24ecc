import Searchable.Condition
import Searchable.Criteria

/-!
# From criteria to conditions

`Schema.compile` gathers the criteria of each column, refuses columns that are not declared, and
turns what is given for each column into clauses over the column's target. Blank values are passed
over. The clauses of a column come together, in the order in which the criteria first mention the
columns, and the caller's own condition comes last.
-/

namespace Searchable

/-- A clause that a strategy asks for. -/
def clause (text : String) (params : List Value) : Except Failure Clause :=
  (Clause.make text params).mapError .misuse

/-- The clause that bounds a target from below. -/
def lowClause (target : String) (low : Value) : Except Failure Clause :=
  clause ("? <= " ++ target) [low]

/-- The clause that bounds a target from above. -/
def highClause (target : String) (high : Value) : Except Failure Clause :=
  clause (target ++ " <= ?") [high]

/-- The two bounds of a value that is a pair. -/
def Value.bounds? (v : Value) : Option (Value × Value) :=
  match v.sequence? with
  | some [low, high] => some (low, high)
  | _ => none

/-- The values of which a column is to be one: the items of a collection that is not a text, and
any other value alone. -/
def Value.choices (v : Value) : List Value :=
  match v with
  | .text _ | .bytes _ | .strategy _ => [v]
  | _ => v.items?.getD [v]

namespace Strategy

/-- The clauses for both bounds of a closed range; a blank bound is replaced by the other. -/
def closedClauses (target : String) (low high : Value) : Except Failure (List Clause) :=
  if low.isBlank && high.isBlank then .ok []
  else do
    let lower ← lowClause target (if low.isBlank then high else low)
    let upper ← highClause target (if high.isBlank then low else high)
    return [lower, upper]

/-- The clauses for those bounds of an open range that are not blank. -/
def openClauses (target : String) (low high : Value) : Except Failure (List Clause) := do
  let lower ← if low.isBlank then .ok [] else (lowClause target low).map ([·])
  let upper ← if high.isBlank then .ok [] else (highClause target high).map ([·])
  return lower ++ upper

/-- The two bounds given for a range column. -/
def boundsOf (s : Strategy) (column v : Value) : Except Failure (Value × Value) :=
  match v.bounds? with
  | some bounds => .ok bounds
  | none => .error (.ofCause (.invalidRange column (.text s.name) v .null))

/-- The clauses of a column over a target for a value that is not blank. -/
def clauses (s : Strategy) (column : Value) (target : String) (v : Value) :
    Except Failure (List Clause) :=
  match s with
  | .matchFull => (clause (target ++ " = ?") [v]).map ([·])
  | .matchPartial => do
    let sought ← v.written.mapError .misuse
    (clause (target ++ " LIKE ?") [.text ("%" ++ sought ++ "%")]).map ([·])
  | .closedRange => do
    let (low, high) ← boundsOf s column v
    closedClauses target low high
  | .openRange => do
    let (low, high) ← boundsOf s column v
    openClauses target low high
  | .including => (clause (target ++ " IN (?)") [.list v.choices]).map ([·])

end Strategy

namespace Schema

/-- The target of a column as it stands in clauses. -/
def targetText (s : Schema) (column : String) (written : Value) : Except Failure String :=
  ((s.targetOf column written).written.map parenthesised).mapError .misuse

/-- The clauses of a column for what is given for it. -/
def clausesOf (s : Schema) (column : String) (m : Mention) : Except Failure (List Clause) :=
  if m.given.value.isBlank then .ok []
  else
    match s.strategies.get? column with
    | none => .error (.ofCause (.unknownSearchColumn m.written))
    | some strategy => do
      let target ← s.targetText column m.written
      strategy.clauses m.written target m.given.value

/-- The clauses of several columns, column by column. -/
def groups (s : Schema) : Entries Mention → Except Failure (List (List Clause))
  | [] => .ok []
  | (column, mention) :: rest => do
    let group ← s.clausesOf column mention
    let others ← s.groups rest
    return group :: others

/-- Refuses the first column that is not declared. -/
def checkDeclared (s : Schema) : Entries Mention → Except Failure Unit
  | [] => .ok ()
  | (column, mention) :: rest =>
    if s.strategies.contains column then s.checkDeclared rest
    else .error (.ofCause (.unknownSearchColumn mention.written))

/-- The groups of clauses of criteria, a group for each column that they mention. -/
def criteriaGroups (s : Schema) (criteria : Criteria) : Except Failure (List (List Clause)) := do
  let columns ← Criteria.fold (some s.ranges) criteria
  s.checkDeclared columns
  s.groups columns

/-- The condition of criteria and of what the caller adds. -/
def compile (s : Schema) (criteria : Criteria) (additional : Value) :
    Except Failure Condition := do
  let groups ← s.criteriaGroups criteria
  let further ← (Condition.ofAdditional additional).mapError .misuse
  return .ofClauses groups.flatten further

end Schema

end Searchable
