import Searchable.Proofs.Criteria.Folding
import Searchable.Proofs.Schema.Table

/-!
# The phases of compiling

Compiling goes through three phases: it gathers the criteria, refuses columns that are not declared,
and makes the clauses. `compile_cases` says which phase a call ends in, and with what, in terms of
the criteria as they are written: a mixed column, else the first unknown name (`unknown?`), else the
first defect of a mentioned column (`defectIn?`), else the rows of all of them (`rowsIn`).

The names that a schema has for the bounds of its range columns are listed in `boundNames`, so that
what a name means is looked up and not taken apart.
-/

namespace Searchable

namespace Schema

/-- The names for the bounds of range columns, and the column and the bound that each means. A range
column without a name has none. -/
def boundNames (s : Schema) : Entries (String × Side) :=
  (s.ranges.names.filter (· ≠ "")).flatMap fun column =>
    [(column ++ lowEnding, column, .low), (column ++ highEnding, column, .high)]

/-- The range column and the bound that a name means. -/
def boundOf? (s : Schema) (name : String) : Option (String × Side) :=
  s.boundNames.get? name

/-- A name is listed for a bound exactly when it is made of a range column with a name and the
bound's ending. -/
theorem mem_boundNames {s : Schema} {name column : String} {side : Side} :
    (name, column, side) ∈ s.boundNames ↔
      column ≠ "" ∧ s.ranges.contains column = true ∧ name = column ++ side.ending := by
  rw [Entries.contains, Entries.get?_isSome_iff, boundNames, List.mem_flatMap]
  constructor
  · rintro ⟨b, hb, hm⟩
    rw [List.mem_filter, decide_eq_true_eq] at hb
    rcases List.mem_cons.mp hm with he | hm
    · obtain ⟨rfl, rfl, rfl⟩ : name = b ++ lowEnding ∧ column = b ∧ side = .low := by
        simpa using he
      exact ⟨hb.2, hb.1, rfl⟩
    · obtain ⟨rfl, rfl, rfl⟩ : name = b ++ highEnding ∧ column = b ∧ side = .high := by
        simpa using hm
      exact ⟨hb.2, hb.1, rfl⟩
  · rintro ⟨hne, hb, rfl⟩
    refine ⟨column, List.mem_filter.2 ⟨hb, by simpa using hne⟩, ?_⟩
    cases side with
    | low => exact List.mem_cons_self ..
    | high => exact List.mem_cons_of_mem _ (List.mem_cons_self ..)

/-- The listed names are those that gathering takes for the names of bounds. -/
theorem boundOf?_eq_splitAmong? (s : Schema) :
    s.boundOf? = Criteria.splitAmong? s.ranges.contains := by
  funext name
  apply Option.ext
  rintro ⟨column, side⟩
  rw [Criteria.splitAmong?_eq_some_iff, ← mem_boundNames]
  constructor
  · exact Entries.mem_of_get?
  · intro hm
    have hnames : name ∈ s.boundNames.names := List.mem_map.2 ⟨_, hm, rfl⟩
    obtain ⟨⟨other, otherSide⟩, hget⟩ :=
      Option.isSome_iff_exists.1 (Entries.get?_isSome_iff.2 hnames)
    -- A name means one bound only, for it is split in one way.
    have hsplit : Criteria.splitAmong? s.ranges.contains name = some (column, side) :=
      Criteria.splitAmong?_eq_some_iff.2 (mem_boundNames.1 hm)
    have hother : Criteria.splitAmong? s.ranges.contains name = some (other, otherSide) :=
      Criteria.splitAmong?_eq_some_iff.2 (mem_boundNames.1 (Entries.mem_of_get? hget))
    rw [boundOf?, hget, ← hother, hsplit]

/-- The first name of criteria that is neither that of a declared column nor that of a bound. -/
def unknown? (s : Schema) (c : Entries Value) : Option String :=
  c.names.find? fun name => (s.boundOf? name).isNone && !s.strategies.contains name

/-- The first thing that is wrong with what criteria give for a column, in the order in which they
mention the columns. -/
def defectIn? (s : Schema) (c : Entries Value) : Option Failure :=
  (Criteria.columns s.boundOf? c).findSome? fun column =>
    s.defect? column (Criteria.givenIn s.boundOf? c column)

/-- The rows of all columns that criteria mention, in the order of first mention. -/
def rowsIn (s : Schema) (c : Entries Value) : List Row :=
  (Criteria.columns s.boundOf? c).flatMap fun column =>
    s.rows column (Criteria.givenIn s.boundOf? c column)

/-- What it comes to that a range column is given whole, with the given value, and split. -/
def mixedFailure (column : String) (strategy : Strategy) (v : Value) : Failure :=
  .showing (givenTwice strategy.name column v) v.literal

/-- The refusal of a name that is not declared. -/
def unknownFailure (name : String) : Failure :=
  .fault (.ofCause (.unknownSearchColumn (.text name)))

/-- The failure for a mixed column. -/
theorem failureOf_conflict (ranges : Entries Strategy) (c : Entries Value) {column : String}
    {strategy : Strategy} {v : Value} (hr : ranges.get? column = some strategy)
    (hv : c.get? column = some v) :
    Criteria.failureOf ranges (Criteria.ofEntries c) (.conflict (.text column)) =
      mixedFailure column strategy v := by
  rw [Criteria.failureOf_conflict_eq ranges hv, hr]
  rfl

/-- A column that can be mixed is a range column, and criteria have a value under its own name. -/
theorem exists_of_isMixed {s : Schema} {c : Entries Value} {column : String}
    (h : Criteria.IsMixed s.boundOf? c column) :
    (∃ strategy, s.ranges.get? column = some strategy) ∧ ∃ v, c.get? column = some v := by
  obtain ⟨hw, key, -, side, hb⟩ := h
  constructor
  · rw [boundOf?_eq_splitAmong?, Criteria.splitAmong?_eq_some_iff] at hb
    exact Option.isSome_iff_exists.1 hb.2.1
  · apply Option.isSome_iff_exists.1
    unfold Criteria.wholeIn? at hw
    split at hw
    · cases hw
    · exact hw

/-- The columns of a reading are checked in order. -/
theorem checkDeclared_tabulate (s : Schema) (g : String → Given) (columns : List String) :
    s.checkDeclared (Entries.tabulate columns fun column => ⟨.text column, g column⟩) =
      match columns.find? fun column => !s.strategies.contains column with
      | some column => .error (unknownFailure column)
      | none => .ok () := by
  induction columns with
  | nil => rfl
  | cons column columns ih =>
    have hcons : s.checkDeclared (Entries.tabulate (column :: columns) fun column =>
        ⟨.text column, g column⟩) =
        if s.strategies.contains column then
          s.checkDeclared (Entries.tabulate columns fun column => ⟨.text column, g column⟩)
        else .error (unknownFailure column) := rfl
    rw [hcons, List.find?_cons]
    cases h : s.strategies.contains column with
    | true => exact ih
    | false => rfl

/-- The range columns are the declared columns whose strategy is a range. -/
theorem contains_ranges_iff {s : Schema} {column : String} : s.ranges.contains column = true ↔
    ∃ strategy, (column, strategy) ∈ s.strategies ∧ strategy.isRange = true := by
  rw [Entries.contains_iff]
  constructor
  · intro h
    obtain ⟨⟨_, strategy⟩, he, rfl⟩ := List.mem_map.1 h
    exact ⟨strategy, List.mem_filter.1 he⟩
  · rintro ⟨strategy, he⟩
    exact List.mem_map.2 ⟨_, List.mem_filter.2 he, rfl⟩

/-- A range column that is declared once is declared with a range. -/
theorem isRange_of_ranges {s : Schema} {column : String} {strategy : Strategy}
    (hd : s.strategies.names.Nodup) (hrange : s.ranges.contains column = true)
    (hs : s.strategies.get? column = some strategy) : strategy.isRange = true := by
  obtain ⟨other, ho, hor⟩ := contains_ranges_iff.1 hrange
  obtain rfl : strategy = other := Option.some.inj (hs.symm.trans (Entries.get?_of_mem hd ho))
  exact hor

/-- A declared range column is a declared column. -/
theorem contains_of_ranges {s : Schema} {column : String} (h : s.ranges.contains column = true) :
    s.strategies.contains column = true := by
  rw [Entries.contains, Entries.get?_isSome_iff] at h ⊢
  obtain ⟨e, he, hn⟩ := List.mem_map.1 h
  exact List.mem_map.2 ⟨e, (List.mem_filter.1 he).1, hn⟩

/-- The first column that is not declared is the first unknown name. -/
theorem find?_columns (s : Schema) (c : Entries Value) :
    ((Criteria.columns s.boundOf? c).find? fun column => !s.strategies.contains column) =
      s.unknown? c := by
  have hpred : ((fun column => !s.strategies.contains column) ∘ Criteria.columnOf s.boundOf?) =
      fun name => (s.boundOf? name).isNone && !s.strategies.contains name := by
    funext name
    rw [Function.comp_apply, Criteria.columnOf]
    cases hb : s.boundOf? name with
    | none => rfl
    | some p =>
      obtain ⟨column, side⟩ := p
      have hr : s.ranges.contains column = true :=
        (mem_boundNames.1 (Entries.mem_of_get? hb)).2.1
      simp [contains_of_ranges hr]
  rw [Criteria.columns, find?_eraseDups, List.find?_map, hpred, ← unknown?]
  -- An unknown name mentions itself.
  cases hu : s.unknown? c with
  | none => rfl
  | some name =>
    have hname := List.find?_some hu
    rw [Bool.and_eq_true, Option.isNone_iff_eq_none] at hname
    rw [Option.map_some, Criteria.columnOf, hname.1]
    rfl

/-- Criteria that could be gathered yield their rows, unless a name among them is unknown or what
they give has a defect. -/
theorem yields_reading (s : Schema) (c : Entries Value) :
    Yields (((s.unknown? c).map unknownFailure).or (s.defectIn? c)) (s.rowsIn c)
      ((do
        s.checkDeclared (Criteria.reading s.boundOf? c)
        s.groups (Criteria.reading s.boundOf? c) : Except Failure (List (List Clause))).map
          List.flatten) := by
  have hcheck : s.checkDeclared (Criteria.reading s.boundOf? c) = match s.unknown? c with
      | some name => .error (unknownFailure name)
      | none => .ok () := by
    rw [← find?_columns]
    exact s.checkDeclared_tabulate _ _
  rw [hcheck]
  cases hu : s.unknown? c with
  | some name => rfl
  | none =>
    -- All columns are declared, so that each has the rows or the defect of its strategy.
    rw [← find?_columns, List.find?_eq_none] at hu
    exact s.yields_groups _ _ fun column hm => by simpa using hu column hm

/-- How a call without a further condition ends: a column is mixed, or a name is unknown, or what
the criteria give yields its rows or is refused for its first defect. -/
theorem compile_cases (s : Schema) (c : Entries Value) (hc : c.names.Nodup) :
    (∃ column strategy v, Criteria.IsMixed s.boundOf? c column ∧
      s.ranges.get? column = some strategy ∧ c.get? column = some v ∧
      s.compile (.ofEntries c) .null = .error (mixedFailure column strategy v)) ∨
    (∀ column, ¬Criteria.IsMixed s.boundOf? c column) ∧
      match s.unknown? c, s.defectIn? c with
      | some name, _ => s.compile (.ofEntries c) .null = .error (unknownFailure name)
      | none, some f => s.compile (.ofEntries c) .null = .error f
      | none, none => ∃ cs, s.compile (.ofEntries c) .null = .ok (.ofClauses cs none) ∧
        cs.map Clause.row = s.rowsIn c := by
  have hcompile : s.compile (.ofEntries c) .null =
      ((s.criteriaGroups (.ofEntries c)).map List.flatten).map (Condition.ofClauses · none) := by
    unfold compile
    cases s.criteriaGroups (.ofEntries c) <;> rfl
  have hgroups : s.criteriaGroups (.ofEntries c) = (do
      let columns ← (Criteria.gatherAll s.ranges.contains [] (.ofEntries c)).mapError
        (Criteria.failureOf s.ranges (.ofEntries c))
      s.checkDeclared columns
      s.groups columns) := rfl
  have hreads := Criteria.gatherAll_reads s.ranges.contains c hc
  rw [← boundOf?_eq_splitAmong?] at hreads
  rcases hreads with ⟨hok, hnone⟩ | ⟨column, hmixed, herr⟩
  · right
    refine ⟨hnone, ?_⟩
    have hyields := s.yields_reading c
    rw [hcompile, hgroups, hok, mapError_ok]
    simp only [bind, Except.bind] at hyields ⊢
    generalize Except.map List.flatten _ = outcome at hyields ⊢
    cases hu : s.unknown? c with
    | some name =>
      rw [hu] at hyields
      obtain rfl : outcome = .error (unknownFailure name) := hyields
      rfl
    | none => cases hdef : s.defectIn? c with
      | some f =>
        rw [hu, hdef] at hyields
        obtain rfl : outcome = .error f := hyields
        rfl
      | none =>
        rw [hu, hdef] at hyields
        obtain ⟨cs, rfl, hrows⟩ := hyields
        exact ⟨cs, rfl, hrows⟩
  · left
    obtain ⟨⟨strategy, hr⟩, v, hv⟩ := exists_of_isMixed hmixed
    refine ⟨column, strategy, v, hmixed, hr, hv, ?_⟩
    rw [hcompile, hgroups, herr, mapError_error, failureOf_conflict s.ranges c hr hv]
    rfl

end Schema

end Searchable
