/-!
# Matching strategies

The rule by which the value of a request column is compared with the records. A strategy is
declared by its name; `ofName?_name` says that the names tell the strategies apart.
-/

namespace Searchable

/-- The rule by which a column is searched. -/
inductive Strategy where
  /-- The column equals the value. -/
  | matchFull
  /-- The column holds the value's text. -/
  | matchPartial
  /-- The column lies between two bounds, of which a missing one is taken to equal the other. -/
  | closedRange
  /-- The column lies between those of two bounds that are given. -/
  | openRange
  /-- The column is one of several values. -/
  | including
  deriving DecidableEq, Repr

namespace Strategy

/-- All strategies, in the order in which they are documented. -/
def all : List Strategy :=
  [.matchFull, .matchPartial, .closedRange, .openRange, .including]

/-- The name by which a strategy is declared. -/
def name : Strategy → String
  | .matchFull => "match_full"
  | .matchPartial => "match_partial"
  | .closedRange => "closed_scope"
  | .openRange => "opened_scope"
  | .including => "including"

/-- The label of a strategy in upper case. -/
def label : Strategy → String
  | .matchFull => "MATCH_FULL"
  | .matchPartial => "MATCH_PARTIAL"
  | .closedRange => "CLOSED_RANGE"
  | .openRange => "OPEN_RANGE"
  | .including => "INCLUDING"

/-- Whether a strategy takes two bounds, which a request may also give one by one. -/
def isRange : Strategy → Bool
  | .closedRange | .openRange => true
  | _ => false

/-- The strategy of the given name. -/
def ofName? (s : String) : Option Strategy :=
  all.find? (·.name == s)

/-- Every strategy is listed. -/
theorem mem_all (s : Strategy) : s ∈ all := by
  cases s <;> decide

/-- A strategy is found by its name. -/
theorem ofName?_name (s : Strategy) : ofName? s.name = some s := by
  cases s <;> decide

/-- The strategy found by a name bears it. -/
theorem name_of_ofName? {n : String} {s : Strategy} (h : ofName? n = some s) : s.name = n := by
  simpa using List.find?_some h

end Strategy

end Searchable
