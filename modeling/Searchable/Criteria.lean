import Searchable.Schema
import Searchable.Text.Ending
import Searchable.Value.Same

/-!
# Criteria

A request's criteria map names to values. A range column may be given whole, as a pair of bounds
under its own name, or split, one bound at a time under names with the endings `_from` and `_to`.
`Criteria.fold` gathers split bounds under the column's name, at the place of its first mention; a
column given both ways is in conflict. A name may be written as a text or as a strategy, and
messages show it as it is written. `baseBefore?_eq_some_iff` says which names have a base.
-/

namespace Searchable

/-- One of the two bounds of a range. -/
inductive Side where
  /-- The lower bound. -/
  | low
  /-- The upper bound. -/
  | high
  deriving DecidableEq, Repr

/-- The ending of the request names for a bound. -/
def Side.ending : Side → String
  | .low => lowEnding
  | .high => highEnding

/-- What criteria give for a column. -/
inductive Given where
  /-- A value under the column's own name. -/
  | whole (value : Value)
  /-- Bounds one by one; a missing one is nothing. -/
  | bounds (low high : Value)
  deriving Repr

namespace Given

/-- What is given as one value: bounds as their pair. -/
def value : Given → Value
  | whole v => v
  | bounds low high => .pair low high

/-- Sets one of two bounds. -/
def withBound (low high : Value) (side : Side) (v : Value) : Given :=
  match side with
  | .low => bounds v high
  | .high => bounds low v

end Given

/-- A column that criteria mention. -/
structure Mention where
  /-- The column as it is written where it is first mentioned. -/
  written : Value
  /-- What is given for it. -/
  given : Given
  deriving Repr

/-- The values of a request under the keys by which they are written. -/
abbrev Criteria := List (Value × Value)

namespace Criteria

/-- Criteria under names. -/
def ofEntries (es : Entries Value) : Criteria :=
  es.map fun e => (.text e.1, e.2)

/-- The criteria that a value stands for: those of a map, and none for a value that does not count
as true. -/
def ofValue (v : Value) : Except Misuse Criteria :=
  if v.isTrue then
    match v with
    | .map pairs => .ok pairs
    | _ => .error (v.lacks "items")
  else .ok []

/-- The request name that a key is. -/
def nameOf (key : Value) : Except Misuse String :=
  match key.text?, key with
  | some name, _ => .ok name
  | none, .bytes _ => .error .byteEnding
  | none, _ => .error (key.lacks "endswith")

/-- The column before one of the two endings, if there is a name left. -/
def baseBefore? (side : Side) (key : String) : Option String :=
  match Text.dropEnding? side.ending.toList key.toList with
  | some (c :: cs) => some (String.ofList (c :: cs))
  | _ => none

/-- The column and the bound that a name with one of the endings speaks of. -/
def splitKey? (key : String) : Option (String × Side) :=
  ((baseBefore? .low key).map (·, .low)).or ((baseBefore? .high key).map (·, .high))

/-- The column and the bound that a name speaks of, among the columns whose bounds may be given
one by one. -/
def splitAmong? (isRange : String → Bool) (key : String) : Option (String × Side) :=
  (splitKey? key).filter fun p => isRange p.1

/-- Why criteria cannot be gathered. -/
inductive Obstacle where
  /-- A key is no name. -/
  | noName (m : Misuse)
  /-- A column is given whole and split; `column` is as it is written where this shows. -/
  | conflict (column : Value)
  deriving Repr

/-- What is given for a column so far. -/
def givenSoFar? (done : Entries Mention) (column : String) : Option Given :=
  (done.get? column).map Mention.given

/-- Takes one criterion to those already gathered. -/
def gather (isRange : String → Bool) (done : Entries Mention) (key v : Value) :
    Except Obstacle (Entries Mention) := do
  let name ← (nameOf key).mapError .noName
  match splitAmong? isRange name with
  | none =>
    match givenSoFar? done name with
    | some (.bounds _ _) => .error (.conflict key)
    | _ => .ok (done.put name ⟨key, .whole v⟩)
  | some (base, side) =>
    let bounded (low high : Value) : Entries Mention :=
      done.put base ⟨.text base, .withBound low high side v⟩
    match givenSoFar? done base with
    | some (.whole _) => .error (.conflict (.text base))
    | some (.bounds low high) => .ok (bounded low high)
    | none => .ok (bounded .null .null)

/-- Takes criteria one by one to those already gathered. -/
def gatherAll (isRange : String → Bool) (done : Entries Mention) :
    Criteria → Except Obstacle (Entries Mention)
  | [] => .ok done
  | (key, v) :: rest => (gather isRange done key v).bind fun next => gatherAll isRange next rest

/-- The conflict of a column that is given whole and split. -/
def conflict (ranges : Entries Strategy) (criteria : Criteria) (column : Value) : Cause :=
  let strategy := match column.text?.bind ranges.get? with
    | some s => s.name
    | none => "range"
  .invalidRange column (.text strategy) ((Value.find? column criteria).getD .null)
    (.text (strategy ++ " column [" ++ column.shown ++
      "] given both as a pair and as _from/_to keys"))

/-- The failure for an obstacle. -/
def failureOf (ranges : Entries Strategy) (criteria : Criteria) : Obstacle → Failure
  | .noName m => .misuse m
  | .conflict column => .ofCause (conflict ranges criteria column)

/-- What the criteria give for each column, in the order of first mention. Without `ranges` the
bounds of every column may be given one by one, otherwise only those of its columns. -/
def fold (ranges : Option (Entries Strategy)) (criteria : Criteria) :
    Except Failure (Entries Mention) :=
  let isRange := match ranges with
    | some known => known.contains
    | none => fun _ => true
  (gatherAll isRange [] criteria).mapError (failureOf (ranges.getD []) criteria)

/-- A base is found before an ending exactly when the name is made of the two. -/
theorem baseBefore?_eq_some_iff {side : Side} {key base : String} :
    baseBefore? side key = some base ↔ base ≠ "" ∧ key = base ++ side.ending := by
  have hkey : ∀ b : List Char, Text.dropEnding? side.ending.toList key.toList = some b ↔
      key = String.ofList b ++ side.ending := by
    intro b
    rw [Text.dropEnding?_eq_some_iff, ← String.toList_inj, String.toList_append,
      String.toList_ofList]
  unfold baseBefore?
  constructor
  · intro h
    split at h
    · rename_i c cs hd
      obtain rfl := Option.some.inj h
      refine ⟨?_, (hkey _).1 hd⟩
      intro he
      have := congrArg String.toList he
      simp at this
    · simp at h
  · rintro ⟨hne, hk⟩
    have hb : Text.dropEnding? side.ending.toList key.toList = some base.toList := by
      rw [hkey, String.ofList_toList]
      exact hk
    rw [hb]
    cases hl : base.toList with
    | nil => exact absurd (String.toList_inj.1 (by rw [hl]; rfl)) hne
    | cons c cs => simp [← hl]

end Criteria

end Searchable
