import Searchable.Entries
import Searchable.Misuse

/-!
# Environments

An environment gives texts to variables. Not every name can be that of a variable, and not every
text its value: no character is empty, and the mark between names and values is in no name.
`Environment.ofEntries` reads an environment and refuses what none can hold.
-/

namespace Searchable

/-- The variables of an environment. -/
abbrev Environment := Entries String

namespace Environment

/-- The mark between the name of a variable and its value. -/
def assignmentMark : Char := '='

/-- The character at which a text in an environment ends. -/
def endMark : Char := '\x00'

/-- Refuses a variable that no environment can have. -/
def checkVariable (name value : String) : Except Misuse Unit :=
  if name.toList.contains endMark || value.toList.contains endMark then .error .emptyCharacter
  else if name.toList.contains assignmentMark then .error .markInName
  else if name = "" then .error .nameless
  else .ok ()

/-- The text that a variable is given. -/
def textOf (name : String) (value : Value) : Except Misuse String :=
  match value with
  | .text s => (checkVariable name s).map fun _ => s
  | _ => .error (.notVariableText value.kind)

/-- The environment of names with values, which have to be texts. -/
def ofEntries : Entries Value → Except Misuse Environment
  | [] => .ok []
  | (name, value) :: rest => do
    let text ← textOf name value
    let env ← ofEntries rest
    return (name, text) :: env

end Environment

end Searchable
