import Searchable.Condition
import Searchable.Statement.Bind

/-!
# Text clauses

A condition becomes a part of a statement by giving each of its parameters a bind of its own, or one
per item to a parameter that stands for several. The condition's own colons are escaped. A bind that
the text does not have under its name, because it touches what is around it, is refused.

Which values can be those of binds is up to the library that runs statements: `refuses` says which
ones it does not take.
-/

namespace Searchable

/-- A part of a statement: its text, with escaped colons, and the values of its binds. -/
structure TextClause where
  /-- The characters of the text. -/
  chars : List Char
  /-- The value of each bind of the text. -/
  params : Entries Value
  deriving Repr

/-- The pieces of some characters between the placeholders. -/
def pieces : List Char → List (List Char)
  | [] => [[]]
  | c :: rest =>
    if c = '?' then [] :: pieces rest
    else
      match pieces rest with
      | [] => [[c]]
      | p :: ps => (c :: p) :: ps

/-- There is one more piece than there are placeholders. -/
theorem length_pieces (cs : List Char) : (pieces cs).length = cs.count '?' + 1 := by
  induction cs with
  | nil => rfl
  | cons c rest ih =>
    by_cases hc : c = '?'
    · simp [pieces, hc, ih]
    · rw [pieces, if_neg hc, List.count_cons_of_ne (by simpa using hc), ← ih]
      cases hp : pieces rest with
      | nil => simp [hp] at ih
      | cons p ps => simp

namespace Bind

/-- The name of the bind of a parameter. -/
def paramName (index : Nat) : String :=
  "p" ++ toString index

/-- The name of the bind of an item of a parameter. -/
def itemName (index item : Nat) : String :=
  paramName index ++ "_" ++ toString item

/-- The binds of some items of a parameter, the first of which has the given number. -/
def ofItems (index item : Nat) : List Value → List Bind
  | [] => []
  | v :: vs => ⟨itemName index item, v⟩ :: ofItems index (item + 1) vs

/-- The binds of a parameter: one, or one per item. -/
def ofParam (index : Nat) (v : Value) : List Bind :=
  match v.several? with
  | some items => ofItems index 0 items
  | none => [⟨paramName index, v⟩]

/-- The binds of each of some parameters, the first of which has the given number. -/
def ofParams (index : Nat) : List Value → List (List Bind)
  | [] => []
  | v :: vs => ofParam index v :: ofParams (index + 1) vs

/-- Refuses a bind whose value is not taken. -/
def check (refuses : Value → Bool) (b : Bind) : Except Misuse Unit :=
  if refuses b.value then .error (b.value.misusedAs .notBindable) else .ok ()

/-- How a bind appears in a text. -/
def mark (b : Bind) : String :=
  String.singleton bindMark ++ b.name

/-- How the binds of a parameter appear in a text; where there are none, nothing is meant. -/
def marks : List Bind → String
  | [] => "NULL"
  | binds => ", ".intercalate (binds.map mark)

end Bind

namespace TextClause

/-- The characters of pieces with the binds of a parameter after each piece but the last. -/
def interleave : List (List Char) → List (List Bind) → List Char
  | p :: ps, binds :: rest => escapeColons p ++ (Bind.marks binds).toList ++ interleave ps rest
  | p :: _, [] => escapeColons p
  | [], _ => []

/-- The clause of a text whose binds have no values yet. -/
def ofChars (cs : List Char) : TextClause :=
  ⟨cs, Entries.ofList ((Bind.namesIn cs).map fun name => (name, .null))⟩

/-- Gives values to binds; the first that the text does not have is refused. -/
def supply (c : TextClause) : List Bind → Except Misuse TextClause
  | [] => .ok c
  | b :: bs =>
    if c.params.contains b.name then supply ⟨c.chars, c.params.put b.name b.value⟩ bs
    else .error (.unrecognisedBind b.name)

/-- The clause of a condition. -/
def ofCondition (refuses : Value → Bool) (c : Condition) : Except Misuse TextClause :=
  if placeholders c.expression = c.params.length then do
    let binds := Bind.ofParams 0 c.params
    binds.flatten.forM (Bind.check refuses)
    (ofChars (interleave (pieces c.expression.toList) binds)).supply binds.flatten
  else .error (.conditionArity (placeholders c.expression) c.params.length)

/-- The clause of an expression and its parameters, written one after the other. -/
def ofValue (refuses : Value → Bool) (v : Value) : Except Misuse TextClause := do
  ofCondition refuses (← Condition.ofItems v)

/-- The text of a clause in a finished statement. -/
def sql (c : TextClause) : String :=
  String.ofList (unescapeColons c.chars)

end TextClause

end Searchable
