import Searchable.Misuse
import Searchable.Text.Word

/-!
# What a statement looks for

A statement looks for the records of a table. Nothing, a truth value or a number may stand in place
of a record type; the statement then has that value alone and no table. All else is refused.
-/

namespace Searchable

/-- What a statement looks for. -/
inductive Source where
  /-- The records of a type that is kept in a table. -/
  | table (m : Model)
  /-- The value of an expression. -/
  | expression (sql : String)
  deriving Repr

namespace Source

/-- The number of characters that are shown of a text in place of a record type. -/
def shownLength : Nat := 25

/-- The start of a text, with an ellipsis if there is more. -/
def shortened (s : String) : String :=
  if shownLength < s.length then String.ofList (s.toList.take shownLength) ++ "..." else s

/-- Whether a text looks like a column: a word character and then no blank one, but for a line end
after all. -/
def looksLikeColumn (cs : List Char) : Bool :=
  match cs with
  | [] => false
  | c :: rest =>
    let body := if rest.getLast? = some '\n' then rest.dropLast else rest
    Text.isWordChar c && body.all fun d => !Text.isBlankChar d

/-- The refusal of a text in place of a record type. -/
def textMisuse (s : String) : Misuse :=
  .soughtText (Text.Literal.ofText (shortened s))
    (if looksLikeColumn s.toList then "column" else "literal_column")

/-- The text of all columns. -/
def allColumns : String := "*"

/-- What a value in place of a record type stands for. -/
def ofValue (v : Value) : Except Misuse Source :=
  match v with
  | .model m => .ok (.table m)
  | .null => .ok (.expression "NULL AS anon_1")
  | .bool b => .ok (.expression (if b then "true AS anon_1" else "false AS anon_1"))
  | .int _ => v.written.map .expression
  | .float x => .ok (.expression x.write)
  | .list items =>
    -- The items have literal forms where their list has one.
    .error (v.misusedAs fun literal => .notSought literal
      ((Value.literals items).toOption.map Value.commaSeparated))
  | _ =>
    if v.text?.isNone then .error (v.misusedAs (.notSought · none))
    else if v.shown = allColumns then .ok (.expression allColumns)
    else .error (textMisuse v.shown)

/-- The text of a statement up to its conditions. -/
def sql : Source → String
  | table m =>
    "SELECT " ++ ", ".intercalate (m.columns.map fun c => m.table ++ "." ++ c.2) ++ " \nFROM " ++
      m.table
  | expression sql => "SELECT " ++ sql

end Source

end Searchable
