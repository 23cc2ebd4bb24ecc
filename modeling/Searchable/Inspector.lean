import Searchable.Misuse
import Searchable.Value.Same

/-!
# Inspectors

What a registry has to know of record types: their names and their columns. It asks an inspector,
which may be any two functions. There are two of them here: `Inspector.listed` has a list of columns
per record type, and `Inspector.mapped` reads them off record types that are kept in tables, where
both the attribute of a column and its name in the table count.
-/

namespace Searchable

/-- The name of a record type; a value that is none is named by its plain form. -/
def Value.recordTypeName : Value → Except Misuse String
  | .recordType label => .ok (typeName label)
  | .model m => .ok m.name
  | v => v.written

/-- Whether a record type has a column as an attribute or in its table. -/
def Model.hasColumn (m : Model) (column : String) : Bool :=
  m.columns.any fun c => c.1 = column || c.2 = column

/-- A source of knowledge about record types. -/
structure Inspector where
  /-- The name of a record type. -/
  typeName : Value → Except Misuse String
  /-- Whether a record type has a column. -/
  hasColumn : Value → String → Except Misuse Bool

namespace Inspector

/-- The inspector that has a list of columns per record type; a type without one has no columns. -/
def listed (columns : List (Value × List String)) : Inspector where
  typeName := Value.recordTypeName
  hasColumn recordType column :=
    match recordType.unhashable? with
    | some kind => .error (.unhashable kind)
    | none => .ok (((Value.find? recordType columns).getD []).contains column)

/-- The inspector that lists the columns of record types; what cannot be a key is refused. -/
def ofPairs (pairs : List (Value × List String)) : Except Misuse Inspector :=
  match Value.firstUnhashable? (pairs.map Prod.fst) with
  | some kind => .error (.unhashable kind)
  | none => .ok (.listed (Value.mergeEntries pairs))

/-- The inspector that knows the columns of tables. -/
def mapped : Inspector where
  typeName := Value.recordTypeName
  hasColumn recordType column :=
    match recordType with
    | .model m => .ok (m.hasColumn column)
    | v => .error (.notMapped v.typeLiteral)

end Inspector

end Searchable
