/-!
# References to variables

A value may refer to variables: a name between `$` with an opening brace and a closing brace,
possibly with `:-` and a substitute after the name. `expand` puts the value of the variable in place
of each reference, or the substitute if there is no such variable.
-/

namespace Searchable.Dotenv

/-- A reference to a variable. -/
structure Reference where
  /-- The name of the variable. -/
  name : String
  /-- What stands in for an absent variable. -/
  substitute : String
  deriving DecidableEq, Repr

/-- The brace after the mark of a reference. -/
def openBrace : Char := '\x7b'

/-- The brace at the end of a reference. -/
def closeBrace : Char := '\x7d'

/-- A character of the name in a reference. -/
def isReferenceChar (c : Char) : Bool :=
  c != closeBrace && c != ':'

/-- The reference of a name that ends where the given characters begin, and what follows it. -/
def referenceEnd? (name : List Char) (cs : List Char) : Option (Reference × List Char) :=
  match cs with
  | ':' :: '-' :: rest =>
    match rest.dropWhile (· != closeBrace) with
    | _ :: after =>
      some (⟨String.ofList name, String.ofList (rest.takeWhile (· != closeBrace))⟩, after)
    | [] => none
  | c :: rest => if c = closeBrace then some (⟨String.ofList name, ""⟩, rest) else none
  | [] => none

/-- The reference at the start of some characters, and what follows it. -/
def reference? (cs : List Char) : Option (Reference × List Char) :=
  match cs with
  | '$' :: c :: rest =>
    if c = openBrace then
      referenceEnd? (rest.takeWhile isReferenceChar) (rest.dropWhile isReferenceChar)
    else none
  | _ => none

/-- The characters with each reference replaced by what it stands for. A reference that is read
leaves fewer characters. -/
def expandChars (valueOf? : String → Option String) (cs : List Char) : List Char :=
  match cs with
  | [] => []
  | c :: rest =>
    match reference? (c :: rest) with
    | some (r, after) =>
      -- The mark alone takes a character, so this holds; it is what makes the recursion end.
      if after.length ≤ rest.length then
        ((valueOf? r.name).getD r.substitute).toList ++ expandChars valueOf? after
      else c :: expandChars valueOf? rest
    | none => c :: expandChars valueOf? rest
termination_by cs.length

/-- A value with each reference replaced by what it stands for. -/
def expand (valueOf? : String → Option String) (value : String) : String :=
  String.ofList (expandChars valueOf? value.toList)

end Searchable.Dotenv
