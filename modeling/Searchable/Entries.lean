/-!
# Insertion-ordered maps

A map from names to values is the list of its entries in the order in which their names first
came. `put` replaces a value in its place, so that a repeated name keeps its position. The lemmas
say what `put` does to each look-up and to the names.
-/

namespace Searchable

/-- The entries of a map from names, in the order of first insertion. -/
abbrev Entries (α : Type) := List (String × α)

namespace Entries

variable {α : Type}

/-- The value under a name. -/
def get? (name : String) : Entries α → Option α
  | [] => none
  | (n, v) :: rest => if n = name then some v else get? name rest

/-- Sets the value under a name, at the end if the name is new. -/
def put (name : String) (value : α) : Entries α → Entries α
  | [] => [(name, value)]
  | (n, v) :: rest => if n = name then (n, value) :: rest else (n, v) :: put name value rest

/-- The names in order. -/
def names (es : Entries α) : List String :=
  es.map Prod.fst

/-- Whether a name has a value. -/
def contains (name : String) (es : Entries α) : Bool :=
  (es.get? name).isSome

/-- The entries with each repeated name merged into its first place, where it has its last
value. -/
def ofList (pairs : List (String × α)) : Entries α :=
  pairs.foldl (fun es p => es.put p.1 p.2) []

/-- The value that was put is found. -/
theorem get?_put_self (name : String) (value : α) (es : Entries α) :
    (es.put name value).get? name = some value := by
  induction es with
  | nil => simp [put, get?]
  | cons e es ih =>
    obtain ⟨n, v⟩ := e
    by_cases h : n = name
    · simp [put, get?, h]
    · simp [put, get?, h, ih]

/-- Other values are not touched. -/
theorem get?_put_of_ne {name other : String} (value : α) (es : Entries α) (hne : other ≠ name) :
    (es.put name value).get? other = es.get? other := by
  induction es with
  | nil => simp [put, get?, Ne.symm hne]
  | cons e es ih =>
    obtain ⟨n, v⟩ := e
    by_cases h : n = name
    · subst h
      simp [put, get?, Ne.symm hne]
    · simp [put, get?, h, ih]

/-- A name has a value exactly when it is among the names. -/
theorem get?_isSome_iff {name : String} {es : Entries α} :
    (es.get? name).isSome = true ↔ name ∈ es.names := by
  induction es with
  | nil => simp [get?, names]
  | cons e es ih =>
    obtain ⟨n, v⟩ := e
    by_cases h : n = name
    · simp [get?, names, h]
    · simpa [get?, names, h, Ne.symm h] using ih

/-- A value that is found was entered under its name. -/
theorem mem_of_get? {name : String} {value : α} {es : Entries α} (h : es.get? name = some value) :
    (name, value) ∈ es := by
  induction es with
  | nil => simp [get?] at h
  | cons e es ih =>
    obtain ⟨n, v⟩ := e
    by_cases hn : n = name
    · simp_all [get?]
    · simp_all [get?]

/-- A known name keeps its place and a new one comes last. -/
theorem names_put (name : String) (value : α) (es : Entries α) :
    (es.put name value).names = if name ∈ es.names then es.names else es.names ++ [name] := by
  induction es with
  | nil => simp [put, names]
  | cons e es ih =>
    obtain ⟨n, v⟩ := e
    by_cases h : n = name
    · simp [put, names, h]
    · simp only [names] at ih
      by_cases hm : name ∈ es.map Prod.fst
      · simp_all [put, names]
      · simp_all [put, names, Ne.symm h]

end Entries

end Searchable
