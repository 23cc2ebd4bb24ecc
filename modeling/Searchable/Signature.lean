import Searchable.Misuse

/-!
# Signatures

An operation has parameters, which arguments fill by place or by name. `Signature.check` says
whether arguments fit: none may be for a parameter that is filled already or that does not exist,
there may not be too many of them, and no required parameter may be left.
-/

namespace Searchable

/-- The parameters of an operation. -/
structure Signature where
  /-- The name of the operation. -/
  operation : String
  /-- The parameters that need an argument, in order. -/
  required : List String
  /-- The parameters after them that do not. -/
  optional : List String
  /-- The parameters that are filled by name only. -/
  named : List String
  /-- Whether arguments of other names are taken as well. -/
  takesMore : Bool
  deriving Repr

/-- The parameter for the value to which an operation belongs. -/
def receiver : String := "self"

namespace Signature

/-- The parameters that may be filled by place, in order. -/
def placed (s : Signature) : List String :=
  s.required ++ s.optional

/-- Whether there is a parameter of a name. -/
def knows (s : Signature) (name : String) : Bool :=
  s.takesMore || s.placed.contains name || s.named.contains name

/-- Refuses the first name of an argument for which there is no parameter left, when the first
parameters are filled by place. -/
def checkNames (s : Signature) (filled : Nat) : List String → Except Misuse Unit
  | [] => .ok ()
  | name :: names =>
    if (s.placed.take filled).contains name then .error (.repeatedArgument s.operation name)
    else if s.knows name then s.checkNames filled names
    else .error (.unexpectedArgument s.operation name)

/-- The required parameters that neither place nor name fills. -/
def missing (s : Signature) (filled : Nat) (names : List String) : List String :=
  (s.required.drop filled).filter fun p => !names.contains p

/-- Refuses arguments that do not fit: so many by place, and the others by name. -/
def check (s : Signature) (filled : Nat) (names : List String) : Except Misuse Unit := do
  s.checkNames filled names
  if s.placed.length < filled then
    .error (.surplusArguments s.operation s.placed.length filled
      (names.filter s.named.contains).length)
  match s.missing filled names with
  | [] => return
  | parameters => .error (.missingArguments s.operation parameters)

end Signature

end Searchable
