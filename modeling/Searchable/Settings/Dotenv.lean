import Searchable.Settings.Dotenv.Reference
import Searchable.Settings.Environment
import Searchable.Text.Blank

/-!
# Files of variables

A file of variables has an assignment `name = value` per line, possibly after the word `export`,
with notes after a `#`. A value, and a name between single quotes, may be quoted; a quoted value may
hold escapes and line ends. A line that is no assignment is passed over. References in values are
replaced. `Dotenv.apply` brings the assignments into an environment: the last one of a name counts,
and one without a value does nothing. An environment may forbid that files are read.
-/

namespace Searchable.Dotenv

/-- A name and, unless there was only the name, its value. -/
abbrev Assignment := String × Option String

/-- A blank character within a line. -/
def isInlineBlank (c : Char) : Bool :=
  Text.isBlankChar c && c != '\n'

/-- Ends every line by a line feed alone. -/
def unifyLineEnds : List Char → List Char
  | '\r' :: '\n' :: rest => '\n' :: unifyLineEnds rest
  | '\r' :: rest => '\n' :: unifyLineEnds rest
  | c :: rest => c :: unifyLineEnds rest
  | [] => []

/-- What follows the current line. -/
def afterLine (cs : List Char) : List Char :=
  (cs.dropWhile (· != '\n')).drop 1

/-- What follows the word `export` and the blanks after it; without them, all. -/
def afterExport (cs : List Char) : List Char :=
  match cs with
  | 'e' :: 'x' :: 'p' :: 'o' :: 'r' :: 't' :: c :: rest =>
    if isInlineBlank c then rest.dropWhile isInlineBlank else cs
  | _ => cs

/-- A character of a name that is not quoted. -/
def isNameChar (c : Char) : Bool :=
  c != '=' && c != '#' && !Text.isBlankChar c

/-- The name at the start of a line and what follows it; a note takes the place of no name. -/
def name? (cs : List Char) : Option (Option String × List Char) :=
  match cs with
  | '#' :: _ => some (none, cs)
  | '\'' :: rest =>
    match rest.takeWhile (· != '\''), rest.dropWhile (· != '\'') with
    | c :: body, _ :: after => some (some (String.ofList (c :: body)), after)
    | _, _ => none
  | _ =>
    match cs.takeWhile isNameChar with
    | [] => none
    | body => some (some (String.ofList body), cs.dropWhile isNameChar)

/-- What a quoted value holds up to its closing quote, and what follows. A character after a
backslash does not close the value. -/
def quoted? (quote : Char) : List Char → Option (List Char × List Char)
  | [] => none
  | [c] => if c = quote then some ([], []) else none
  | c :: d :: after =>
    if c = quote then some ([], d :: after)
    else if c = '\\' then (quoted? quote after).map fun found => (c :: d :: found.1, found.2)
    else (quoted? quote (d :: after)).map fun found => (c :: found.1, found.2)

/-- The character that an escaped character stands for between single quotes. -/
def singleEscape? : Char → Option Char
  | '\\' => some '\\'
  | '\'' => some '\''
  | _ => none

/-- The character that an escaped character stands for between double quotes. -/
def doubleEscape? : Char → Option Char
  | '\\' => some '\\'
  | '\'' => some '\''
  | '"' => some '"'
  | 'a' => some '\x07'
  | 'b' => some '\x08'
  | 'f' => some '\x0c'
  | 'n' => some '\n'
  | 'r' => some '\r'
  | 't' => some '\t'
  | 'v' => some '\x0b'
  | _ => none

/-- Replaces the escapes that are known; a backslash before any other character stays. -/
def unescape (escape? : Char → Option Char) : List Char → List Char
  | [] => []
  | [c] => [c]
  | c :: d :: rest =>
    match if c = '\\' then escape? d else none with
    | some e => e :: unescape escape? rest
    | none => c :: unescape escape? (d :: rest)

/-- The characters before a note, which is a `#` after a blank. -/
def beforeNote (afterBlank : Bool) : List Char → List Char
  | [] => []
  | c :: rest =>
    if c = '#' ∧ afterBlank = true then [] else c :: beforeNote (Text.isBlankChar c) rest

/-- A value that is not quoted: the rest of the line without a note and without blanks at either
end. -/
def bareValue (line : List Char) : String :=
  String.ofList (Text.trimWhile Text.isBlankChar (beforeNote false line))

/-- The value after an equals sign and what follows it. Blanks before a bare value count as those
before a note. -/
def value? (cs : List Char) : Option (String × List Char) :=
  match cs.dropWhile isInlineBlank with
  | '\'' :: rest =>
    (quoted? '\'' rest).map fun found =>
      (String.ofList (unescape singleEscape? found.1), found.2)
  | '"' :: rest =>
    (quoted? '"' rest).map fun found =>
      (String.ofList (unescape doubleEscape? found.1), found.2)
  | _ => some (bareValue (cs.takeWhile (· != '\n')), cs.dropWhile (· != '\n'))

/-- The value after an equals sign, if there is one, and what follows. -/
def assigned? (cs : List Char) : Option (Option String × List Char) :=
  match cs with
  | '=' :: rest => (value? rest).map fun found => (some found.1, found.2)
  | _ => some (none, cs)

/-- What follows the line if only blanks and a note are left of it. -/
def afterRest? (cs : List Char) : Option (List Char) :=
  match cs.dropWhile isInlineBlank with
  | [] => some []
  | '\n' :: rest => some rest
  | '#' :: rest => some (afterLine rest)
  | _ => none

/-- Reads one line: its assignment, if it is one, and what follows the line. -/
def line (cs : List Char) : Option Assignment × List Char :=
  match name? (afterExport cs) with
  | none => (none, afterLine cs)
  | some (name, rest) =>
    match assigned? (rest.dropWhile isInlineBlank) with
    | none => (none, afterLine rest)
    | some (value, rest) =>
      match afterRest? rest with
      | none => (none, afterLine rest)
      | some after => (name.map fun n => (n, value), after)

/-- The assignments in order. Each line that is read leaves fewer characters. -/
def assignments (cs : List Char) : List Assignment :=
  match cs.dropWhile Text.isBlankChar with
  | [] => []
  | c :: rest =>
    let found := line (c :: rest)
    -- A line has at least one character, so this holds; it is what makes the recursion end.
    if found.2.length < cs.length then found.1.toList ++ assignments found.2 else found.1.toList
termination_by cs.length

/-- What follows the mark that a file may begin with, which tells how its characters are kept. -/
def afterMark : List Char → List Char
  | '\ufeff' :: cs => cs
  | cs => cs

/-- The assignments of a file. -/
def read (text : String) : List Assignment :=
  assignments (unifyLineEnds (afterMark text.toList))

/-- The values of names so far, none for a name that came without one. -/
abbrev Assigned := Entries (Option String)

/-- What a reference to a variable stands for. Values of the file count before those of the
environment if they override them, and after them otherwise; a name without a value stands for
nothing. -/
def referent? (override : Bool) (env : Environment) (done : Assigned) (name : String) :
    Option String :=
  let own := (done.get? name).map (·.getD "")
  if override then own.or (env.get? name) else (env.get? name).or own

/-- Takes an assignment to those before it, with its references replaced. -/
def take (override : Bool) (env : Environment) (done : Assigned) (a : Assignment) : Assigned :=
  done.put a.1 (a.2.map (expand (referent? override env done)))

/-- The value of each name in the end; the last assignment of a name counts. -/
def assigned (override : Bool) (env : Environment) (text : String) : Assigned :=
  (read text).foldl (take override env) []

/-- Sets a variable unless there is no value, or it has one that is to be kept. -/
def assign (override : Bool) (env : Environment) (a : Assignment) : Except Misuse Environment :=
  match a.2 with
  | none => .ok env
  | some value =>
    if !override && env.contains a.1 then .ok env
    else (Environment.checkVariable a.1 value).map fun _ => env.put a.1 value

/-- The variable by which an environment forbids the reading of files. -/
def forbiddingName : String := "PYTHON_DOTENV_DISABLED"

/-- The texts of that variable that forbid it, in lower case. -/
def forbiddingTexts : List String :=
  ["1", "true", "t", "yes", "y"]

/-- A character without regard to case, among those that the forbidding texts have: the long s is
an s. -/
def folded (c : Char) : Char :=
  if c = 'ſ' then 's' else c.toLower

/-- Whether an environment forbids the reading of files. -/
def isForbidden (env : Environment) : Bool :=
  (env.get? forbiddingName).any fun value =>
    forbiddingTexts.contains (String.ofList (value.toList.map folded))

/-- The environment after the assignments of a file; variables that it has already are kept unless
`override` holds. Nothing is read if the environment forbids it. -/
def apply (override : Bool) (env : Environment) (text : String) : Except Misuse Environment :=
  if isForbidden env then .ok env
  else (assigned override env text).foldlM (assign override) env

end Searchable.Dotenv
