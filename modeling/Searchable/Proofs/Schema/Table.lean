import Searchable.Proofs.Chains
import Searchable.Proofs.Condition.Building
import Searchable.Proofs.Criteria.Reading
import Searchable.Proofs.Fault.Showing
import Searchable.Schema.Compile

/-!
# The table of strategies

What each strategy asks of what is given for a column, as rows of clause texts with their
parameters (`Strategy.rows`), and what may be wrong with it (`Strategy.defect?`). The clauses of a
column are the rows of the table, or there are none because of the defect that the table names
(`Schema.yields_clausesOf`). The groups of several columns then have the rows of all of them, or the
first defect (`Schema.yields_groups`).
-/

namespace Searchable

/-- The two bounds that are given for a range column, if they are given one by one or the value is
a list or tuple of two. -/
def Given.sides? : Given → Option (Value × Value)
  | .bounds low high => some (low, high)
  | .whole (.list [low, high]) => some (low, high)
  | .whole (.tuple [low, high]) => some (low, high)
  | .whole _ => none

/-- The values of which a column may be one: the items of a list, tuple, set or stream, the keys of
a map, and any other value alone. -/
def Value.alternatives : Value → List Value
  | list items | tuple items | set items | frozenSet items | stream _ items => items
  | map entries => entries.map Prod.fst
  | v => [v]

/-- Why the value of a range column is refused that is no pair of bounds. -/
def noPair (column : String) (s : Strategy) (v : Value) : Cause :=
  .invalidRange (.text column) (.text s.name) v .null

namespace Strategy

/-- The rows of a closed range: both, or none if no bound is given. -/
def closedRows (target : String) (low high : Value) : List Row :=
  if low.isBlank && high.isBlank then []
  else
    [⟨"? <= " ++ parenthesised target, [if low.isBlank then high else low]⟩,
      ⟨parenthesised target ++ " <= ?", [if high.isBlank then low else high]⟩]

/-- The rows of an open range: one for each bound that is given. -/
def openRows (target : String) (low high : Value) : List Row :=
  (if low.isBlank then [] else [⟨"? <= " ++ parenthesised target, [low]⟩]) ++
    if high.isBlank then [] else [⟨parenthesised target ++ " <= ?", [high]⟩]

/-- The rows that a strategy asks for over a target, for what is given for its column. -/
def rows (s : Strategy) (target : String) (g : Given) : List Row :=
  if g.value.isBlank then []
  else
    match s with
    | .matchFull => [⟨parenthesised target ++ " = ?", [g.value]⟩]
    | .matchPartial =>
      [⟨parenthesised target ++ " LIKE ?", [.text ("%" ++ g.value.shown ++ "%")]⟩]
    | .closedRange => g.sides?.elim [] fun p => closedRows target p.1 p.2
    | .openRange => g.sides?.elim [] fun p => openRows target p.1 p.2
    | .including => [⟨parenthesised target ++ " IN (?)", [.list g.value.alternatives]⟩]

/-- What is wrong with the value of a column: a range column has no two bounds, or what is sought
for a partial match has no text. The refusal of a range column shows the value. -/
def valueDefect? (s : Strategy) (column : String) (g : Given) : Option Failure :=
  match s with
  | .closedRange | .openRange =>
    if g.sides?.isNone then some (.showing (noPair column s g.value) g.value.literal) else none
  | .matchPartial =>
    match g.value.written with
    | .ok _ => none
    | .error m => some (.misuse m)
  | .matchFull | .including => none

/-- What is wrong with the target of a column: it has a placeholder of its own, so that the first
clause over it has more placeholders than its parameter. -/
def targetDefect? (s : Strategy) (target : String) (g : Given) : Option Failure :=
  if '?' ∈ target.toList then
    (s.rows target g).head?.map fun r => .misuse (.clauseArity r.text (placeholders target + 1) 1)
  else none

/-- The first thing that is wrong with what is given for a column. Nothing is wrong with a blank
value. -/
def defect? (s : Strategy) (column : String) (target : Value) (g : Given) : Option Failure :=
  if g.value.isBlank then none
  else
    match target.written with
    | .error m => some (.misuse m)
    | .ok t => (s.valueDefect? column g).or (s.targetDefect? t g)

end Strategy

/-- A clause over a target without placeholders. -/
theorem clause_of_clean {target text : String} (v : Value)
    (ht : placeholders text = placeholders target + 1) (h : '?' ∉ target.toList) :
    ∃ c, clause text [v] = .ok c ∧ c.row = ⟨text, [v]⟩ := by
  have hp : placeholders text = [v].length := by
    rw [ht, placeholders_eq_zero.2 h]
    rfl
  refine ⟨⟨text, [v], hp⟩, ?_, rfl⟩
  rw [clause, Clause.make, dif_pos hp]
  rfl

/-- There is no clause over a target with placeholders. -/
theorem clause_of_marked {target text : String} (v : Value)
    (ht : placeholders text = placeholders target + 1) (h : '?' ∈ target.toList) :
    clause text [v] = .error (.misuse (.clauseArity text (placeholders target + 1) 1)) := by
  have hpos : 0 < placeholders target := List.count_pos_iff.2 h
  have hp : placeholders text ≠ [v].length := by
    rw [ht]
    simp only [List.length_singleton]
    omega
  rw [clause, Clause.make, dif_neg hp, ht]
  rfl

/-- Whether an outcome is the failure for a defect or, where there is none, clauses with the given
rows. -/
def Yields (defect? : Option Failure) (rows : List Row) (outcome : Except Failure (List Clause)) :
    Prop :=
  match defect? with
  | some f => outcome = .error f
  | none => ∃ cs, outcome = .ok cs ∧ cs.map Clause.row = rows

/-- A first group and others yield the rows of both, or the first defect. -/
theorem Yields.cons {first? rest? : Option Failure} {rows others : List Row}
    {group : Except Failure (List Clause)} {groups : Except Failure (List (List Clause))}
    (hf : Yields first? rows group) (hr : Yields rest? others (groups.map List.flatten)) :
    Yields (first?.or rest?) (rows ++ others)
      ((do
        let c ← group
        let cs ← groups
        return c :: cs : Except Failure (List (List Clause))).map List.flatten) := by
  -- The first group's defect stops the call before the others are looked at.
  cases first? with
  | some f =>
    have hf' : group = .error f := hf
    rw [hf']
    rfl
  | none =>
    obtain ⟨c, hc, hrow⟩ := hf
    rw [hc, Option.none_or]
    cases rest? with
    | some f =>
      have hf : groups = .error f := map_eq_error_iff.1 hr
      rw [hf]
      rfl
    | none =>
      obtain ⟨flat, hflat, hrows⟩ := hr
      obtain ⟨cs, rfl, rfl⟩ := map_eq_ok_iff.1 hflat
      exact ⟨c ++ cs.flatten, rfl, by rw [List.map_append, hrow, hrows]⟩

/-- The defect of a target whose first row is known. -/
theorem targetDefect?_of_rows {s : Strategy} {target : String} {g : Given} {r : Row}
    {rest : List Row} (h : s.rows target g = r :: rest) :
    s.targetDefect? target g =
      if '?' ∈ target.toList then
        some (.misuse (.clauseArity r.text (placeholders target + 1) 1))
      else none := by
  rw [Strategy.targetDefect?, h]
  rfl

section Fragment

variable {target : String}

/-- The texts that the strategies put after a target have one placeholder. -/
theorem placeholders_after (ending : String) (h : placeholders ending = 1) :
    placeholders (parenthesised target ++ ending) = placeholders target + 1 := by
  rw [placeholders_append, placeholders_parenthesised, h]

/-- The text that the strategies put before a target has one placeholder. -/
theorem placeholders_before :
    placeholders ("? <= " ++ parenthesised target) = placeholders target + 1 := by
  have h : placeholders "? <= " = 1 := by decide
  rw [placeholders_append, placeholders_parenthesised, h, Nat.add_comm]

/-- A single clause over a target yields its row. -/
theorem yields_clause {text : String} (v : Value)
    (ht : placeholders text = placeholders target + 1) :
    Yields
      (if '?' ∈ target.toList then some (.misuse (.clauseArity text (placeholders target + 1) 1))
        else none)
      [⟨text, [v]⟩] ((clause text [v]).map ([·])) := by
  by_cases h : '?' ∈ target.toList
  · rw [if_pos h, clause_of_marked v ht h]
    rfl
  · obtain ⟨c, hc, hr⟩ := clause_of_clean v ht h
    rw [if_neg h, hc]
    exact ⟨[c], rfl, by rw [List.map_singleton, hr]⟩

/-- The clauses of a closed range yield its rows. -/
theorem yields_closedClauses (low high : Value) :
    Yields
      (if '?' ∈ target.toList then
        (Strategy.closedRows target low high).head?.map fun r =>
          .misuse (.clauseArity r.text (placeholders target + 1) 1)
        else none)
      (Strategy.closedRows target low high)
      (Strategy.closedClauses (parenthesised target) low high) := by
  rw [Strategy.closedRows, Strategy.closedClauses]
  cases hb : low.isBlank && high.isBlank with
  | true =>
    simp only [if_true, List.head?_nil, Option.map_none, ite_self]
    exact ⟨[], rfl, rfl⟩
  | false =>
    simp only [Bool.false_eq_true, if_false, List.head?_cons, Option.map_some]
    have hhigh : placeholders (parenthesised target ++ " <= ?") = placeholders target + 1 :=
      placeholders_after " <= ?" (by decide)
    rw [lowClause, highClause]
    by_cases h : '?' ∈ target.toList
    · rw [if_pos h, clause_of_marked _ placeholders_before h]
      rfl
    · obtain ⟨l, hl, hlr⟩ :=
        clause_of_clean (if low.isBlank then high else low) placeholders_before h
      obtain ⟨u, hu, hur⟩ := clause_of_clean (if high.isBlank then low else high) hhigh h
      rw [if_neg h, hl, hu]
      refine ⟨[l, u], rfl, ?_⟩
      rw [List.map_cons, List.map_singleton, hlr, hur]

/-- The clauses of an open range yield its rows. -/
theorem yields_openClauses (low high : Value) :
    Yields
      (if '?' ∈ target.toList then
        (Strategy.openRows target low high).head?.map fun r =>
          .misuse (.clauseArity r.text (placeholders target + 1) 1)
        else none)
      (Strategy.openRows target low high)
      (Strategy.openClauses (parenthesised target) low high) := by
  have hhigh : placeholders (parenthesised target ++ " <= ?") = placeholders target + 1 :=
    placeholders_after " <= ?" (by decide)
  rw [Strategy.openRows, Strategy.openClauses, lowClause, highClause]
  by_cases h : '?' ∈ target.toList
  · rw [if_pos h, clause_of_marked low placeholders_before h, clause_of_marked high hhigh h]
    cases low.isBlank with
    | false => rfl
    | true => cases high.isBlank with
      | false => rfl
      | true => exact ⟨[], rfl, rfl⟩
  · obtain ⟨l, hl, hlr⟩ := clause_of_clean low placeholders_before h
    obtain ⟨u, hu, hur⟩ := clause_of_clean high hhigh h
    rw [if_neg h, hl, hu]
    cases low.isBlank with
    | false => cases high.isBlank with
      | false => exact ⟨[l, u], rfl, by rw [List.map_cons, List.map_singleton, hlr, hur]; rfl⟩
      | true => exact ⟨[l], rfl, by rw [List.map_singleton, hlr]; rfl⟩
    | true => cases high.isBlank with
      | false => exact ⟨[u], rfl, by rw [List.map_singleton, hur]; rfl⟩
      | true => exact ⟨[], rfl, rfl⟩

end Fragment

/-- The bounds of a value are the sides that are given. -/
theorem bounds?_value (g : Given) : g.value.bounds? = g.sides? := by
  cases g with
  | bounds low high => rfl
  | whole v => cases v with
    | list items | tuple items => rcases items with _ | ⟨a, _ | ⟨b, _ | ⟨c, rest⟩⟩⟩ <;> rfl
    | _ => rfl

/-- The plain form of a value, where there is one, is what is shown of it. -/
theorem shown_of_written {v : Value} {text : String} (h : v.written = .ok text) :
    v.shown = text := by
  unfold Value.written at h
  unfold Value.shown
  rw [mapError_eq_ok_iff.1 h]
  rfl

/-- The refusal of a range column shows the texts of the strategy and the column, and the literal
form of the value. -/
theorem ofCause_noPair (column : String) (s : Strategy) (v : Value) :
    Failure.ofCause (noPair column s v) = .showing (noPair column s v) v.literal :=
  Failure.ofCause_eq_showing [s.name, column] rfl

/-- The choices of a value are what may stand for it. -/
theorem choices_eq_alternatives (v : Value) : v.choices = v.alternatives := by
  cases v <;> rfl

/-- The clauses of a strategy for a value that is not blank yield its rows. -/
theorem Strategy.yields_clauses (s : Strategy) (column target : String) (g : Given)
    (hb : g.value.isBlank = false) :
    Yields ((s.valueDefect? column g).or (s.targetDefect? target g)) (s.rows target g)
      (s.clauses (.text column) (parenthesised target) g.value) := by
  cases s with
  | matchFull =>
    have hr : rows .matchFull target g = [⟨parenthesised target ++ " = ?", [g.value]⟩] := by
      rw [rows, hb]; rfl
    rw [targetDefect?_of_rows hr, hr]
    exact yields_clause g.value (placeholders_after " = ?" (by decide))
  | matchPartial =>
    cases hw : g.value.written with
    | error m =>
      simp only [valueDefect?, hw, Option.some_or, clauses]
      rfl
    | ok sought =>
      have hr : rows .matchPartial target g =
          [⟨parenthesised target ++ " LIKE ?", [.text ("%" ++ sought ++ "%")]⟩] := by
        rw [rows, hb, shown_of_written hw]; rfl
      rw [targetDefect?_of_rows hr, hr]
      simp only [valueDefect?, hw, Option.none_or, clauses]
      exact yields_clause (.text ("%" ++ sought ++ "%")) (placeholders_after " LIKE ?" (by decide))
  | closedRange =>
    have hr : rows .closedRange target g =
        g.sides?.elim [] fun p => closedRows target p.1 p.2 := by rw [rows, hb]; rfl
    rw [targetDefect?, hr]
    simp only [clauses, boundsOf, bounds?_value, valueDefect?]
    cases g.sides? with
    | none => exact ofCause_noPair _ _ _ ▸ rfl
    | some p => exact yields_closedClauses p.1 p.2
  | openRange =>
    have hr : rows .openRange target g =
        g.sides?.elim [] fun p => openRows target p.1 p.2 := by rw [rows, hb]; rfl
    rw [targetDefect?, hr]
    simp only [clauses, boundsOf, bounds?_value, valueDefect?]
    cases g.sides? with
    | none => exact ofCause_noPair _ _ _ ▸ rfl
    | some p => exact yields_openClauses p.1 p.2
  | including =>
    have hr : rows .including target g =
        [⟨parenthesised target ++ " IN (?)", [.list g.value.alternatives]⟩] := by
      rw [rows, hb]; rfl
    rw [targetDefect?_of_rows hr, hr, clauses, choices_eq_alternatives]
    exact yields_clause (.list g.value.alternatives) (placeholders_after " IN (?)" (by decide))

namespace Schema

/-- The rows of a column for what is given for it. -/
def rows (s : Schema) (column : String) (g : Given) : List Row :=
  (s.strategies.get? column).elim [] fun strategy => strategy.rows (s.target column).shown g

/-- The first thing that is wrong with what is given for a column. -/
def defect? (s : Schema) (column : String) (g : Given) : Option Failure :=
  (s.strategies.get? column).bind fun strategy => strategy.defect? column (s.target column) g

/-- The clauses of a declared column yield its rows. -/
theorem yields_clausesOf (s : Schema) {column : String} (hd : s.strategies.contains column = true)
    (g : Given) :
    Yields (s.defect? column g) (s.rows column g) (s.clausesOf column ⟨.text column, g⟩) := by
  obtain ⟨strategy, hst⟩ := Option.isSome_iff_exists.1 hd
  rw [defect?, rows, hst, Option.bind_some, Option.elim_some]
  unfold clausesOf Strategy.defect?
  cases hb : g.value.isBlank with
  | true =>
    have hnone : strategy.rows (s.target column).shown g = [] := by
      unfold Strategy.rows
      rw [hb]
      rfl
    exact ⟨[], rfl, hnone.symm⟩
  | false =>
    simp only [Bool.false_eq_true, if_false, hst]
    have htarget : s.targetText column (.text column) =
        ((s.target column).written.map parenthesised).mapError .misuse := rfl
    rw [htarget]
    cases hw : (s.target column).written with
    | error m => rfl
    | ok t =>
      rw [shown_of_written hw]
      exact strategy.yields_clauses column t g hb

/-- The groups of declared columns yield the rows of all of them, in order. -/
theorem yields_groups (s : Schema) (g : String → Given) (columns : List String)
    (hd : ∀ column ∈ columns, s.strategies.contains column = true) :
    Yields (columns.findSome? fun column => s.defect? column (g column))
      (columns.flatMap fun column => s.rows column (g column))
      ((s.groups (Entries.tabulate columns fun column => ⟨.text column, g column⟩)).map
        List.flatten) := by
  induction columns with
  | nil => exact ⟨[], rfl, rfl⟩
  | cons column columns ih =>
    have hfirst := s.yields_clausesOf (hd column (List.mem_cons_self ..)) (g column)
    have hrest := ih fun other ho => hd other (List.mem_cons_of_mem _ ho)
    have hor : ((column :: columns).findSome? fun column => s.defect? column (g column)) =
        (s.defect? column (g column)).or
          (columns.findSome? fun column => s.defect? column (g column)) := by
      rw [List.findSome?_cons]
      cases s.defect? column (g column) <;> rfl
    rw [hor, List.flatMap_cons]
    exact hfirst.cons hrest

end Schema

end Searchable
