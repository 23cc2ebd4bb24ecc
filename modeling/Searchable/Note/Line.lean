import Searchable.Json.OfValue
import Searchable.Misuse
import Searchable.Note

/-!
# Log lines

A line of the log is either an interchange text, with the members of a note in the order in which
they first came, or one for the eye, with the fields sorted by name and after it the call stack and
the error of the note.
-/

namespace Searchable.Note

/-- The line as an interchange text, in ASCII only; values that the format does not know show their
literal form. -/
def jsonLine (time : String) (n : Note) : Except Misuse String :=
  (((Value.map ((n.members time).map fun e => (.text e.1, e.2))).toJson Value.literal).map
    (Json.write .ascii)).mapError .unwritable

/-- A text with spaces after it up to a width. -/
def padded (width : Nat) (s : String) : String :=
  s ++ String.ofList (List.replicate (width - s.length) ' ')

/-- The characters for which a text is quoted in a line for the eye. -/
def quotedChars : List Char :=
  [' ', '\t', '=', '\r', '\n', '"', '\'']

/-- A value in a line for the eye: a text as it is unless it has to be quoted. -/
def shownValue (v : Value) : Except Unwritable String :=
  match v.text? with
  | some s => if s.toList.any quotedChars.contains then v.literal else .ok s
  | none => v.literal

/-- A field in a line for the eye. -/
def shownField (e : String × Value) : Except Misuse String :=
  ((shownValue e.2).map fun shown => e.1 ++ "=" ++ shown).mapError .unwritable

/-- The field without a name, which comes first in a line for the eye. -/
def namelessField : String := ""

/-- The field that names a second logger. -/
def secondLogger : String := "logger_name"

/-- The field with the call stack. -/
def stackName : String := "stack"

/-- The field with the text of an error. -/
def errorName : String := "exception"

/-- The names of what the line for the eye does not hold among the sorted fields. -/
def placedNames : List String :=
  [eventName, "logger", "level", "timestamp", namelessField, secondLogger, stackName, errorName,
    handlingName]

/-- The sorted fields of the line for the eye. -/
def shownFields (n : Note) : Entries Value :=
  (n.fields.filter fun e => !placedNames.contains e.1 && !hiddenNames.contains e.1).mergeSort
    fun a b => decide (a.1 ≤ b.1)

/-- The parts of the line for the eye, between which there are spaces. -/
def parts (time : String) (n : Note) : Except Misuse (List String) := do
  let event ← ((n.members time).get? eventName).mapM Value.written
  let logger ← n.logger.written
  let second ← (n.fields.get? secondLogger).mapM Value.written
  let nameless ← (n.fields.get? namelessField).mapM fun v => shownField (namelessField, v)
  let shown ← n.shownFields.mapM shownField
  return nameless.toList ++ [time, "[" ++ padded 9 n.level.name ++ "]"] ++
    (event.map (padded 30)).toList ++
    ((logger :: second.toList).map fun name => "[" ++ name ++ "]") ++ shown

/-- A text on a line of its own, if there is one. -/
def below (v : Value) : Except Misuse String :=
  match v.text?, v with
  | some s, _ => .ok ("\n" ++ s)
  | none, .null => .ok ""
  | none, _ => .error (.notText v.kind)

/-- The line between a call stack and an error. -/
def divider : String :=
  "\n\n" ++ String.ofList (List.replicate 79 '=') ++ "\n"

/-- Whether a note is about an error. -/
def hasError (n : Note) : Bool :=
  (n.field handlingName).isTrue || (n.field errorName).kind != Value.null.kind

/-- The report of an error: its kind, and after it its text unless that is empty. -/
def report (e : ErrorView) : String :=
  match e.text with
  | .ok "" => e.fullKind
  | .ok text => e.fullKind ++ ": " ++ text
  | .error _ => e.fullKind ++ ": <exception str() failed>"

/-- The error of a note on lines of its own. The error that is being handled takes the place of a
text about one. -/
def errorLines (n : Note) : Except Misuse String :=
  match n.field handlingName with
  | .error _ e => .ok ("\n" ++ report e)
  | _ => below (n.field errorName)

/-- The call stack and the error of a note, each on lines of its own. -/
def tail (n : Note) : Except Misuse String := do
  let stack ← below (n.field stackName)
  let error ← n.errorLines
  return stack ++ (if stack ≠ "" ∧ n.hasError = true then divider else "") ++ error

/-- The line for the eye. -/
def plainLine (time : String) (n : Note) : Except Misuse String := do
  let parts ← n.parts time
  let tail ← n.tail
  return " ".intercalate parts ++ tail

end Searchable.Note
