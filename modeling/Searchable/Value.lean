import Searchable.Floating
import Searchable.Strategy
import Searchable.Text.Blank

/-!
# Request values

A search request carries values of any shape: numbers, texts, collections, the record types and
loaders that a store understands, and errors. Streams, loaders and errors are told apart by more
than what they hold, for which each has a mark: those of one shape and mark are one object. This
module holds the type and the questions whose answers depend on the shape alone. How a value is
written is in `Searchable.Value.Literal`, when two are the same in `Searchable.Value.Same`.
-/

namespace Searchable

/-- A record type that is kept in a table. -/
structure Model where
  /-- The name of the record type. -/
  name : String
  /-- The name of its table. -/
  table : String
  /-- Its columns: the attribute under which a record has it, and its name in the table. -/
  columns : List (String × String)
  /-- The relationships to other record types. -/
  relationships : List String
  deriving DecidableEq, Repr

/-- An instruction to load what records have under an attribute together with them. -/
structure Loader where
  /-- The name of the record type. -/
  recordType : String
  /-- The attribute, which should be a relationship of the record type. -/
  member : String
  deriving DecidableEq, Repr

/-- Why something has no text. -/
inductive Unwritable where
  /-- A map has a key of this kind, for which the interchange format has no text. -/
  | key (kind : String)
  /-- A whole number has more digits than are shown. -/
  | longNumber
  deriving DecidableEq, Repr

/-- What is seen of an error that is kept as a value. -/
structure ErrorView where
  /-- The name of its kind. -/
  kind : String
  /-- The name of its kind with the place where the kind is declared. -/
  fullKind : String
  /-- Its literal form, unless something in it has none. -/
  literal : Except Unwritable String
  /-- Its text, unless something in it has none. -/
  text : Except Unwritable String
  deriving Repr

/-- A value of a request or of a declaration. -/
inductive Value where
  /-- Nothing is given. -/
  | null
  /-- A truth value. -/
  | bool (b : Bool)
  /-- A whole number. -/
  | int (n : Int)
  /-- A floating-point number. -/
  | float (x : Floating)
  /-- A text. -/
  | text (s : String)
  /-- A byte string. -/
  | bytes (bs : List UInt8)
  /-- A sequence that may grow. -/
  | list (items : List Value)
  /-- A sequence of fixed length. -/
  | tuple (items : List Value)
  /-- A set that may grow. -/
  | set (items : List Value)
  /-- A fixed set. -/
  | frozenSet (items : List Value)
  /-- A map, in the order of its keys' first insertion. -/
  | map (entries : List (Value × Value))
  /-- Items that can be gone through but neither counted nor indexed. -/
  | stream (mark : Nat) (items : List Value)
  /-- A strategy. -/
  | strategy (s : Strategy)
  /-- A record type; two labels that agree up to a `#` name different types of one name. -/
  | recordType (label : String)
  /-- A record type that is kept in a table. -/
  | model (m : Model)
  /-- A ready-made instruction to load a relationship. -/
  | loader (mark : Nat) (l : Loader)
  /-- An error. -/
  | error (mark : Nat) (e : ErrorView)
  deriving Repr

namespace Value

/-- The name of the shape of a value. -/
def kind : Value → String
  | null => "NoneType"
  | bool _ => "bool"
  | int _ => "int"
  | float _ => "float"
  | text _ => "str"
  | bytes _ => "bytes"
  | list _ => "list"
  | tuple _ => "tuple"
  | set _ => "set"
  | frozenSet _ => "frozenset"
  | map _ => "dict"
  | stream _ _ => "iter"
  | strategy _ => "SearchStrategy"
  | recordType _ => "type"
  | model _ => "DeclarativeAttributeIntercept"
  | loader _ _ => "Load"
  | error _ e => e.kind

/-- The text that a value is: its own, or the name of a strategy. -/
def text? : Value → Option String
  | text s => some s
  | strategy s => some s.name
  | _ => none

/-- The items of a value that can be gone through: the characters of a text, the numbers of a byte
string, the keys of a map. -/
def items? : Value → Option (List Value)
  | text s => some (s.toList.map fun c => text (String.singleton c))
  | strategy s => some (s.name.toList.map fun c => text (String.singleton c))
  | bytes bs => some (bs.map fun b => int b.toNat)
  | list items | tuple items | set items | frozenSet items | stream _ items => some items
  | map entries => some (entries.map Prod.fst)
  | _ => none

/-- The items of a list or tuple. -/
def sequence? : Value → Option (List Value)
  | list items | tuple items => some items
  | _ => none

/-- The items of a value that stands for several: a list, a tuple or a set. -/
def several? : Value → Option (List Value)
  | list items | tuple items | set items | frozenSet items => some items
  | _ => none

/-- Whether a value counts as true. -/
def isTrue : Value → Bool
  | null => false
  | bool b => b
  | int n => n != 0
  | float x => !x.isZero
  | text s => s != ""
  | bytes bs => !bs.isEmpty
  | list items | tuple items | set items | frozenSet items => !items.isEmpty
  | map entries => !entries.isEmpty
  | _ => true

/-- Whether a value counts as not given: nothing, a text of blank characters, or an empty byte
string, list, tuple, set or map. A stream is never blank, for its items are not counted. -/
def isBlank : Value → Bool
  | null => true
  | text s => Text.isBlank s
  | bytes bs => bs.isEmpty
  | list items | tuple items | set items | frozenSet items => items.isEmpty
  | map entries => entries.isEmpty
  | _ => false

/-- Whether a value is a record type that is kept in a table. -/
def isModel : Value → Bool
  | model _ => true
  | _ => false

/-- The pair of two values as a list, which is how bounds that are given one by one are kept. -/
def pair (low high : Value) : Value :=
  list [low, high]

/-- A pair is never blank, whatever its sides. -/
theorem isBlank_pair (low high : Value) : (pair low high).isBlank = false := rfl

end Value

end Searchable
