import Searchable.Statement

/-!
# Statements as texts

A statement is written with its parts one after the other. The values of its binds are given
separately, by name; of equal names the last value counts. The numbers of records have binds of the
statement's own, and a text that uses one of their names is refused, as is an instruction to load
what the record type cannot load.
-/

namespace Searchable.Statement

/-- A part of a statement after the words that introduce it, unless it is empty. -/
def part (introduction sql : String) : String :=
  if sql = "" then "" else introduction ++ sql

/-- How many records and from which on: the text, and the values of its binds. -/
def window (limit offset : Option Int) : String × Entries Value :=
  match limit, offset with
  | none, none => ("", [])
  | some n, none => ("\n LIMIT :param_1", [("param_1", .int n)])
  | none, some m => ("\n LIMIT -1 OFFSET :param_1", [("param_1", .int m)])
  | some n, some m =>
    ("\n LIMIT :param_1 OFFSET :param_2", [("param_1", .int n), ("param_2", .int m)])

/-- The text of a clause that may be missing. -/
def sqlOf (c : Option TextClause) : String :=
  (c.map TextClause.sql).getD ""

/-- The values of the binds of a clause that may be missing. -/
def paramsOf (c : Option TextClause) : Entries Value :=
  (c.map TextClause.params).getD []

/-- The text of a statement. -/
def sql (s : Statement) : String :=
  s.source.sql ++ part " \nWHERE " (sqlOf s.condition) ++ part " ORDER BY " (sqlOf s.order) ++
    (window s.limit s.offset).1 ++ (if s.locked then " FOR UPDATE" else "")

/-- The values of the binds of the texts in a statement. -/
def textParams (s : Statement) : Entries Value :=
  paramsOf s.condition ++ paramsOf s.order

/-- The values of the binds of the statement's own. -/
def ownParams (s : Statement) : Entries Value :=
  (window s.limit s.offset).2

/-- The values of binds by name; of equal names the last counts. -/
def sortedParams (params : Entries Value) : Entries Value :=
  (Entries.ofList params).mergeSort fun a b => decide (a.1 ≤ b.1)

/-- The values of the binds, sorted by name. -/
def params (s : Statement) : Entries Value :=
  sortedParams (s.textParams ++ s.ownParams)

/-- Refuses a statement that cannot be written. Without a table, instructions to load do nothing. -/
def checkWritable (s : Statement) : Except Misuse Unit := do
  match s.source with
  | .table m => Loader.checkAll m s.loaders
  | .expression _ => .ok ()
  match s.ownParams.names.find? s.textParams.contains with
  | some name => .error (.bindConflict name)
  | none => .ok ()

end Searchable.Statement
