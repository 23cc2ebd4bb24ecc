import Searchable.Text.Literal
import Searchable.Text.Numeral
import Searchable.Value

/-!
# The texts of values

The literal form of a value shows its shape: texts are quoted and collections bracketed, at any
depth. The plain form differs in that a text is itself and an error its text; it is what a partial
match searches for and what messages show. A whole number of too many digits has neither form
(`Value.wholeText`), nor has what it is a part of, and an error may be without a text for more
reasons.
-/

namespace Searchable.Value

/-- The text of a whole number. -/
def wholeText (n : Int) : Except Unwritable String :=
  if Text.Numeral.isLong n then .error .longNumber else .ok (Text.Numeral.write n)

/-- Items between a comma and a space each. -/
def commaSeparated (items : List String) : String :=
  ", ".intercalate items

/-- The bracketed literal of a list. -/
def listLiteral (items : List String) : String :=
  "[" ++ commaSeparated items ++ "]"

/-- The bracketed literal of a tuple, in which a single item keeps a comma. -/
def tupleLiteral : List String → String
  | [item] => "(" ++ item ++ ",)"
  | items => "(" ++ commaSeparated items ++ ")"

/-- The bracketed literal of a set; that of the empty set names it, for the bare brackets are an
empty map's. -/
def setLiteral : List String → String
  | [] => "set()"
  | items => "\x7b" ++ commaSeparated items ++ "\x7d"

/-- The bracketed literal of a fixed set. -/
def frozenSetLiteral : List String → String
  | [] => "frozenset()"
  | items => "frozenset(" ++ setLiteral items ++ ")"

/-- The bracketed literal of a map. -/
def mapLiteral (entries : List String) : String :=
  "\x7b" ++ commaSeparated entries ++ "\x7d"

/-- The name of a strategy as a member of the strategies. -/
def strategyLabel (s : Strategy) : String :=
  "SearchStrategy." ++ s.label

/-- The name of a record type: its label up to a `#`. -/
def typeName (label : String) : String :=
  String.ofList (label.toList.takeWhile (· != '#'))

/-- The literal of a record type, which shows that it is declared by the program itself. -/
def typeNameLiteral (name : String) : String :=
  "<class '__main__." ++ name ++ "'>"

mutual

/-- The literal form of a value. -/
def literal : Value → Except Unwritable String
  | null => .ok "None"
  | bool b => .ok (if b then "True" else "False")
  | int n => wholeText n
  | float x => .ok x.write
  | text s => .ok (Text.Literal.ofText s)
  | bytes bs => .ok (Text.Literal.ofBytes bs)
  | list items => (literals items).map listLiteral
  | tuple items => (literals items).map tupleLiteral
  | set items => (literals items).map setLiteral
  | frozenSet items => (literals items).map frozenSetLiteral
  | map entries => (entryLiterals entries).map mapLiteral
  | stream _ items => (literals items).map fun ls => "iter(" ++ listLiteral ls ++ ")"
  | strategy s => .ok ("<" ++ strategyLabel s ++ ": " ++ Text.Literal.ofText s.name ++ ">")
  | recordType label => .ok (typeNameLiteral (typeName label))
  | model m => .ok (typeNameLiteral m.name)
  | loader _ l => .ok ("<loader " ++ l.recordType ++ "." ++ l.member ++ ">")
  | error _ e => e.literal

/-- The literal forms of several values. -/
def literals : List Value → Except Unwritable (List String)
  | [] => .ok []
  | v :: vs => do
    let l ← literal v
    let ls ← literals vs
    return l :: ls

/-- The literal forms of the entries of a map: the key, a colon and the value. -/
def entryLiterals : List (Value × Value) → Except Unwritable (List String)
  | [] => .ok []
  | (k, v) :: rest => do
    let key ← literal k
    let value ← literal v
    let ls ← entryLiterals rest
    return (key ++ ": " ++ value) :: ls

end

/-- The plain form of a value: a text is itself, a strategy its name as a member, an error its text,
and all else its literal form. -/
def plain : Value → Except Unwritable String
  | text s => .ok s
  | strategy s => .ok (strategyLabel s)
  | error _ e => e.text
  | v => v.literal

/-- What a message shows of a value: its plain form, and nothing of a value that has none. -/
def shown (v : Value) : String :=
  v.plain.toOption.getD ""

/-- What a message shows of the literal form of a value, and nothing of a value that has none. -/
def shownLiteral (v : Value) : String :=
  v.literal.toOption.getD ""

end Searchable.Value
