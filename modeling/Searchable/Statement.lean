import Searchable.Floating
import Searchable.Signature
import Searchable.Statement.Loading
import Searchable.Statement.TextClause

/-!
# Statements

The statement by which a store looks for records: what it looks for, under which condition and in
which order, what to load along, how many records and from which on, and whether they are locked.
`Statement.build` reads the parts in this order and reports the first that makes no sense. The text
of a statement is in `Searchable.Statement.Written`.
-/

namespace Searchable

/-- A statement that looks for records. -/
structure Statement where
  /-- What is looked for. -/
  source : Source
  /-- The condition that the records satisfy. -/
  condition : Option TextClause
  /-- The order of the records. -/
  order : Option TextClause
  /-- What is loaded along with each record. -/
  loaders : List Loader
  /-- The greatest number of records. -/
  limit : Option Int
  /-- The number of records that are passed over. -/
  offset : Option Int
  /-- Whether the records are locked. -/
  locked : Bool
  deriving Repr

/-- The character of a byte, if it is an ASCII one; no numeral holds the one for other bytes. -/
def asciiChar (b : UInt8) : Char :=
  if b < 0x80 then Char.ofNat b.toNat else '\ufffd'

/-- The whole number that a value stands for: that of a number without its fraction, or that of a
text. -/
def Value.wholeNumber : Value → Except Misuse Int
  | .bool b => .ok (if b then 1 else 0)
  | .int n => .ok n
  | .float x =>
    match x.truncate? with
    | some n => .ok n
    | none => .error (if x.isUndefined then .undefinedNumber else .infiniteNumber)
  | .bytes bs => readWhole (Text.Literal.ofBytes bs) (String.ofList (bs.map asciiChar))
  | v =>
    match v.text? with
    | some s => readWhole v.shownLiteral s
    | none => .error (.notNumber v.kind)

namespace Statement

/-- The parameters from which a statement is built. -/
def signature : Signature :=
  ⟨"SqlAlchemySearchExecutor.build_statement", [receiver, "record_type"], [],
    ["conditions", "order", "include", "limit", "offset", "with_for_update"], false⟩

/-- Statements need the library that makes them. -/
def checkInstalled (installed : Bool) : Except Misuse Unit :=
  if installed then .ok () else .error .statementsUnavailable

/-- The clause of conditions, if there are any. -/
def conditionClause (refuses : Value → Bool) (v : Value) : Except Misuse (Option TextClause) :=
  if v.isTrue then (TextClause.ofValue refuses v).map some else .ok none

/-- The clause of an order, if there is one. Its colons are not escaped. -/
def orderClause (v : Value) : Except Misuse (Option TextClause) :=
  if v.isTrue then
    match v.text?, v with
    | some s, _ => .ok (some (.ofChars s.toList))
    | none, .bytes _ => .error .byteText
    | none, _ => .error (.notText v.kind)
  else .ok none

/-- A whole number, if one is given. -/
def count? (v : Value) : Except Misuse (Option Int) :=
  match v with
  | .null => .ok none
  | _ => v.wholeNumber.map some

/-- The argument of a name; one that is not given is nothing. -/
def argument (named : Entries Value) (name : String) : Value :=
  (named.get? name).getD .null

/-- The statement that looks for records of a type, with its parts given by name. -/
def build (refuses : Value → Bool) (recordType : Value) (named : Entries Value) :
    Except Misuse Statement := do
  signature.check 2 named.names
  let source ← Source.ofValue recordType
  let condition ← conditionClause refuses (argument named "conditions")
  let order ← orderClause (argument named "order")
  let loaders ← Loader.listOfValue recordType (argument named "include")
  let limit ← count? (argument named "limit")
  let offset ← count? (argument named "offset")
  return ⟨source, condition, order, loaders, limit, offset,
    (argument named "with_for_update").isTrue⟩

end Statement

end Searchable
