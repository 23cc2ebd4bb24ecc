import Searchable.Fault
import Searchable.ForeignError

/-!
# Errors of any origin

A check that the library is given may fail with an error of its own kind, and a fault may be caused
by one. `Raised` is such an error or a failure of the library; it has a literal form, by which a
fault describes what led to it, and a text. `Raised.view` is the error as a value.
-/

namespace Searchable

/-- An error of any origin. -/
inductive Raised where
  /-- A failure of this library. -/
  | own (f : Failure)
  /-- An error from elsewhere. -/
  | foreign (e : ForeignError)
  deriving Repr

namespace Raised

/-- The literal form of an error: its kind, and in parentheses what it was made with. -/
def literal : Raised → Except Unwritable String
  | own (.fault f) => f.literal
  | own (.misuse m) => .ok (m.name ++ "(" ++ Text.Literal.ofText m.message ++ ")")
  | foreign e => e.literal

/-- The text of an error. -/
def text : Raised → Except Unwritable String
  | own (.fault f) => f.text
  | own (.misuse m) => .ok m.message
  | foreign e => e.text

/-- The name of the kind of an error. -/
def kind : Raised → String
  | own (.fault f) => f.cause.kind.name
  | own (.misuse m) => m.name
  | foreign e => e.kind

/-- The name of the kind of an error with the place where the kind is declared, if that is not
everywhere. -/
def fullKind : Raised → String
  | own (.fault f) => f.cause.kind.fullName
  | e => e.kind

/-- What is seen of an error that is kept as a value. -/
def view (e : Raised) : ErrorView :=
  ⟨e.kind, e.fullKind, e.literal, e.text⟩

/-- Whether an error says that the configuration is wrong. -/
def isConfig : Raised → Bool
  | own (.fault f) => f.cause.kind.isA .config
  | own (.misuse _) | foreign _ => false

end Raised

end Searchable
