import Searchable.Misuse

/-!
# Conditions

A condition is an expression with `?` for each of its parameters. It is made of clauses, whose
placeholders and parameters are equal in number by their type, so that the two move together
however clauses are joined. `Condition.ofClauses` is the only place where clauses become one
expression.
-/

namespace Searchable

/-- The number of places that a text has for parameters. -/
def placeholders (s : String) : Nat :=
  s.toList.count '?'

/-- A text between parentheses. -/
def parenthesised (s : String) : String :=
  "(" ++ s ++ ")"

/-- A part of a condition: a text with one parameter for each of its placeholders. -/
structure Clause where
  /-- The text with its placeholders. -/
  text : String
  /-- The parameters in the order of their placeholders. -/
  params : List Value
  /-- There are as many parameters as placeholders. -/
  aligned : placeholders text = params.length

/-- The clause of a text and parameters that fit it. -/
def Clause.make (text : String) (params : List Value) : Except Misuse Clause :=
  if h : placeholders text = params.length then .ok ⟨text, params, h⟩
  else .error (.clauseArity text (placeholders text) params.length)

/-- An expression with the parameters for its placeholders. -/
structure Condition where
  /-- The expression; that of the condition that always holds is empty. -/
  expression : String
  /-- The parameters in the order of their placeholders. -/
  params : List Value
  deriving Repr

namespace Condition

/-- The condition that always holds. -/
def empty : Condition :=
  ⟨"", []⟩

/-- Whether a condition always holds. -/
def isEmpty (c : Condition) : Bool :=
  c.expression == ""

/-- The expression followed by its parameters. -/
def toValues (c : Condition) : List Value :=
  .text c.expression :: c.params

/-- The texts of clauses between parentheses, joined. -/
def conjunction (texts : List String) : String :=
  " AND ".intercalate (texts.map parenthesised)

/-- All clauses together, and after them a further condition, whose placeholders are the caller's
concern; one that always holds adds nothing. -/
def ofClauses (clauses : List Clause) (further : Option Condition) : Condition :=
  let last := further.toList.filter fun c => !c.isEmpty
  ⟨conjunction (clauses.map Clause.text ++ last.map expression),
    clauses.flatMap Clause.params ++ last.flatMap params⟩

/-- An expression and its parameters, written one after the other. -/
def ofItems (v : Value) : Except Misuse Condition :=
  match v.items? with
  | none => .error (.notUnpackable v.kind)
  | some [] => .error .nothingToUnpack
  | some (expression :: params) => expression.written.map (⟨·, params⟩)

/-- The condition that a caller adds: a text without parameters, or an expression followed by its
parameters. A blank value adds none. -/
def ofAdditional (v : Value) : Except Misuse (Option Condition) :=
  if v.isBlank then .ok none
  else if v.text?.isSome then .ok (some ⟨v.shown, []⟩)
  else (ofItems v).map some

end Condition

/-- Clauses gathered one by one. -/
structure Builder where
  /-- The clauses so far. -/
  clauses : List Clause

namespace Builder

/-- Nothing gathered yet. -/
def empty : Builder :=
  ⟨[]⟩

/-- The number of clauses. -/
def size (b : Builder) : Nat :=
  b.clauses.length

/-- Adds a clause at the end. -/
def add (b : Builder) (text : String) (params : List Value) : Except Misuse Builder :=
  (Clause.make text params).map fun c => ⟨b.clauses ++ [c]⟩

/-- The clauses so far as one condition, with a further one at the end. -/
def build (b : Builder) (further : Option Condition) : Condition :=
  .ofClauses b.clauses further

/-- One use of a builder. -/
inductive Step where
  /-- Adds a clause. -/
  | add (text : String) (params : List Value)
  /-- Builds the clauses so far. -/
  | build (further : Option Condition)

/-- The builder after a step, and what comes of the step: the condition that is built, or why a
clause is refused. A refused clause leaves the builder as it is. -/
def step (b : Builder) : Step → Builder × Except Misuse (Option Condition)
  | .add text params =>
    match b.add text params with
    | .ok next => (next, .ok none)
    | .error m => (b, .error m)
  | .build further => (b, .ok (some (b.build further)))

/-- The builder after some steps. -/
def run (b : Builder) (steps : List Step) : Builder :=
  steps.foldl (fun b s => (b.step s).1) b

end Builder

end Searchable
