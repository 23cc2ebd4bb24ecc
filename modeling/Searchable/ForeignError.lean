import Searchable.Value.Literal

/-!
# Errors from elsewhere

An error from elsewhere has a kind and is made of values, which its literal shows. Its text is that
of the one value or the literal of several. The errors of the operating system are made of a number,
which may narrow the kind, a description, and perhaps the names of one or two files, which only the
text shows.
-/

namespace Searchable

/-- An error from elsewhere. -/
structure ForeignError where
  /-- The name of its kind. -/
  kind : String
  /-- The values of which it is made. -/
  args : List Value
  /-- The names of files that it is about. -/
  files : List Value
  deriving Repr

namespace ForeignError

/-- The kind of error whose text quotes its argument, which is a key that was not found. -/
def missingKeyKind : String := "KeyError"

/-- The kinds of errors that have a text even if they are made of nothing. -/
def describedKinds : List String :=
  ["SyntaxError", "IndentationError", "TabError"]

/-- The kind of any error of the operating system. -/
def systemKind : String := "OSError"

/-- Other names of that kind. -/
def systemAliases : List String :=
  ["IOError", "EnvironmentError"]

/-- The kinds of errors of the operating system that numbers tell. -/
def numberedKinds : List (String × List Int) :=
  [("PermissionError", [1, 13]), ("FileNotFoundError", [2]), ("ProcessLookupError", [3]),
    ("InterruptedError", [4]), ("ChildProcessError", [10]), ("BlockingIOError", [11, 114, 115]),
    ("FileExistsError", [17]), ("NotADirectoryError", [20]), ("IsADirectoryError", [21]),
    ("BrokenPipeError", [32, 108]), ("ConnectionAbortedError", [103]),
    ("ConnectionResetError", [104]), ("TimeoutError", [110]), ("ConnectionRefusedError", [111])]

/-- Whether errors of a kind are those of the operating system. -/
def isSystem (kind : String) : Bool :=
  kind = systemKind || kind = "ConnectionError" || numberedKinds.any fun k => k.1 = kind

/-- The kind that a number tells of an error. -/
def narrowed (kind : String) (number : Value) : String :=
  let n? : Option Int :=
    match number with
    | .int n => some n
    | .bool b => some (if b then 1 else 0)
    | _ => none
  if kind = systemKind then
    match n?.bind fun n => numberedKinds.find? fun k => k.2.contains n with
    | some k => k.1
    | none => kind
  else kind

/-- An error of the operating system that is made of some values. Two to five of them are a number,
a description, a file, something without use, and another file. -/
def ofSystem (kind : String) (args : List Value) : ForeignError :=
  match args with
  | number :: description :: rest =>
    if 3 < rest.length then ⟨kind, args, []⟩
    else
      let given := fun (v : Value) => v.kind != Value.null.kind
      match rest.head?.filter given with
      | none => ⟨narrowed kind number, args, []⟩
      | some file =>
        ⟨narrowed kind number, [number, description], file :: (rest[2]?.filter given).toList⟩
  | _ => ⟨kind, args, []⟩

/-- The error of a kind that is made of some values. -/
def make (name : String) (args : List Value) : ForeignError :=
  let kind := if systemAliases.contains name then systemKind else name
  if isSystem kind then ofSystem kind args else ⟨kind, args, []⟩

/-- The literal form of an error: its kind, and in parentheses what it is made of. -/
def literal (e : ForeignError) : Except Unwritable String :=
  (Value.literals e.args).map fun args => e.kind ++ "(" ++ Value.commaSeparated args ++ ")"

/-- The text of an error. One that is made of something without a text has none. -/
def text (e : ForeignError) : Except Unwritable String :=
  match e.args with
  | [] => if describedKinds.contains e.kind then Value.null.literal else .ok ""
  | [arg] => if e.kind = missingKeyKind then arg.literal else arg.plain
  | number :: description :: rest =>
    if isSystem e.kind && rest.length ≤ 3 then do
      let number ← number.plain
      let description ← description.plain
      let files ← Value.literals e.files
      return "[Errno " ++ number ++ "] " ++ description ++
        (if files.isEmpty then "" else ": " ++ " -> ".intercalate files)
    else (Value.tuple e.args).literal

end ForeignError

end Searchable
