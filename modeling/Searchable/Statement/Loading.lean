import Searchable.Universal
import Searchable.Statement.Source

/-!
# What is loaded along

A request may ask for relationships that are loaded together with each record: by name, or by
ready-made instructions. Names are looked up when the statement is built. That an instruction
concerns a relationship of the record type that is looked for is checked when the statement is
written.
-/

namespace Searchable

/-- What a record type has under the name of an attribute. -/
inductive Member where
  /-- A column or a relationship. -/
  | mapped
  /-- A text about the record type. -/
  | label
  /-- The table itself. -/
  | table
  /-- Something else that is kept in no table. -/
  | other
  deriving DecidableEq, Repr

namespace Model

/-- The attributes of every record type that are texts. -/
def labelNames : List String :=
  ["__tablename__", "__name__", "__qualname__", "__module__"]

/-- The attribute of every record type that is its table. -/
def tableName : String := "__table__"

/-- The attributes of every record type that are neither texts nor tables, nor kept in one. -/
def otherNames : List String :=
  ["metadata", "registry", "mro", "_sa_class_manager", "_sa_registry", "__annotations__",
    "__base__", "__bases__", "__basicsize__", "__call__", "__class__", "__dict__",
    "__dictoffset__", "__doc__", "__flags__", "__init__", "__instancecheck__", "__itemsize__",
    "__mapper__", "__mro__", "__or__", "__prepare__", "__ror__", "__subclasscheck__",
    "__subclasses__", "__text_signature__", "__weakref__", "__weakrefoffset__"] ++
    UniversalOperation.all.map (·.name)

/-- What a record type has under a name. -/
def member? (m : Model) (name : String) : Option Member :=
  if m.relationships.contains name || m.columns.any (fun c => c.1 = name) then some .mapped
  else if labelNames.contains name then some .label
  else if name = tableName then some .table
  else if otherNames.contains name then some .other
  else none

end Model

namespace Loader

/-- The instruction to load what a record type has under a name. -/
def ofName (recordType : Value) (name : String) : Except Misuse Loader :=
  match recordType with
  | .model m =>
    match m.member? name with
    | some .mapped => .ok ⟨m.name, name⟩
    | some .label => .error .textToLoad
    | some .table => .error (.noOperation "Table" "is_property")
    | some .other => .error .unmappedToLoad
    | none => .error (.noAttribute m.name name)
  | v => .error (v.lacks name)

/-- The instruction that a value is or names. -/
def ofValue (recordType v : Value) : Except Misuse Loader :=
  match v with
  | .loader _ l => .ok l
  | _ =>
    match v.text? with
    | some name => ofName recordType name
    | none => .error (v.misusedAs .notLoader)

/-- The values that stand for instructions: the items of a sequence, or a single one. -/
def values (v : Value) : List Value :=
  match v with
  | .null => []
  | _ => v.sequence?.getD [v]

/-- The instructions that a value stands for. -/
def listOfValue (recordType v : Value) : Except Misuse (List Loader) := do
  let all := values v
  -- All names are looked up before any other value is noticed to be no instruction.
  let _ ← (all.filter fun i => i.text?.isSome).mapM (ofValue recordType)
  all.mapM (ofValue recordType)

/-- The list that values stand for when no statement is built: names are looked up, and all else is
kept as it is. An instruction that was made of a name has no literal form that lasts. -/
def listProduct (recordType v : Value) : Except Misuse Product := do
  let all := values v
  let named := all.filter fun i => i.text?.isSome
  let _ ← named.mapM (ofValue recordType)
  return if named.isEmpty then .ofValue (.list all) else ⟨(Value.list all).kind, none⟩

/-- Refuses an instruction about another record type than the one that is looked for. -/
def checkSought (m : Model) (l : Loader) : Except Misuse Unit :=
  if l.recordType = m.name then .ok () else .error (.foreignLoader l m.name)

/-- Refuses instructions that concern no relationship of the record type that is looked for; of the
columns the first in the table is reported. -/
def checkAll (m : Model) (ls : List Loader) : Except Misuse Unit := do
  ls.forM (checkSought m)
  match m.columns.find? fun c => ls.any fun l => l.member = c.1 with
  | some c => .error (.columnToLoad m.name c.1)
  | none => .ok ()

end Loader

end Searchable
