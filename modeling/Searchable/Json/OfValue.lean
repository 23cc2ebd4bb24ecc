import Searchable.Json
import Searchable.Value.Literal

/-!
# Values as interchange data

Numbers, texts, sequences and maps become plain data; a strategy becomes its name and a tuple a
sequence. What the format does not know is replaced by a text that the caller chooses. At fault can
be the keys of a map, whole numbers of too many digits, and such a text.
-/

namespace Searchable.Value

/-- The name under which a value stands as the key of a map. -/
def memberName : Value → Except Unwritable String
  | null => .ok "null"
  | bool b => .ok (if b then "true" else "false")
  | int n => wholeText n
  | float x => .ok (Json.floatText x)
  | text s => .ok s
  | strategy s => .ok s.name
  | v => .error (.key v.kind)

mutual

/-- The plain data of a value; `other` gives the text of what the format does not know. -/
def toJson (other : Value → Except Unwritable String) : Value → Except Unwritable Json
  | null => .ok .null
  | bool b => .ok (.bool b)
  | int n => (wholeText n).map fun _ => .int n
  | float x => .ok (.float x)
  | text s => .ok (.text s)
  | strategy s => .ok (.text s.name)
  | list items | tuple items => (itemsToJson other items).map .array
  | map entries => (entriesToJson other entries).map .object
  | v => (other v).map .text

/-- The plain data of several values. -/
def itemsToJson (other : Value → Except Unwritable String) :
    List Value → Except Unwritable (List Json)
  | [] => .ok []
  | v :: vs => do
    let j ← toJson other v
    let js ← itemsToJson other vs
    return j :: js

/-- The plain data of the entries of a map. -/
def entriesToJson (other : Value → Except Unwritable String) :
    List (Value × Value) → Except Unwritable (List (String × Json))
  | [] => .ok []
  | (k, v) :: rest => do
    let name ← memberName k
    let j ← toJson other v
    let js ← entriesToJson other rest
    return (name, j) :: js

end

end Searchable.Value
