import Searchable.Text.Numeral
import Searchable.Value.Literal

/-!
# Misused values

A value may have a shape with which an operation can do nothing: a number where items are gone
through, a list where a key is needed. `Misuse` lists these cases with what the message shows of
them.
-/

namespace Searchable

/-- A value of a shape that an operation has no use for. -/
inductive Misuse where
  /-- The value has no items to go through. -/
  | notIterable (kind : String)
  /-- The value cannot be taken apart into a first item and the others. -/
  | notUnpackable (kind : String)
  /-- There is no first item. -/
  | nothingToUnpack
  /-- An item of a sequence to be joined is not a text. -/
  | notJoinable (index : Nat) (kind : String)
  /-- The value cannot be a key. -/
  | unhashable (kind : String)
  /-- An item that should be a key and a value has no items. -/
  | notEntry (index : Nat)
  /-- An item that should be a key and a value has more or fewer items. -/
  | noEntryLength (index length : Nat)
  /-- Something that is to be written has no text. -/
  | unwritable (why : Unwritable)
  /-- An operation has no parameter of the name. -/
  | unexpectedArgument (operation argument : String)
  /-- An operation is given two arguments for one parameter. -/
  | repeatedArgument (operation parameter : String)
  /-- An operation is given one parameter twice before it is called. -/
  | mergedArgument (operation parameter : String)
  /-- An operation is given more arguments by place than it has parameters. -/
  | surplusArguments (operation : String) (parameters given named : Nat)
  /-- An operation is left without arguments for some parameters. -/
  | missingArguments (operation : String) (parameters : List String)
  /-- An operation is given arguments by name and takes none. -/
  | noNamed (operation : String)
  /-- An operation is given an argument by place and takes none. -/
  | surplus (operation : String)
  /-- A call that needs no argument has one. -/
  | needless
  /-- A call that needs two arguments has one. -/
  | oneOfTwo
  /-- A type whose values take no arguments is given some. -/
  | noArguments (type : String)
  /-- A value of this kind is no type. -/
  | notType (kind : String)
  /-- A value of this kind is no number. -/
  | notIndex (kind : String)
  /-- A value of this kind does not describe how to show others. -/
  | notFormat (kind : String)
  /-- The values of this kind cannot be shown as it is described. -/
  | noFormat (kind : String)
  /-- A value of this kind cannot be called. -/
  | notCallable (kind : String)
  /-- A value of this kind cannot be waited for. -/
  | notAwaitable (kind : String)
  /-- The value of this literal is nothing that runs. -/
  | notRunnable (literal : String)
  /-- The name of an operation is not a text. -/
  | notName (kind : String)
  /-- What is said to have led to an error is none. -/
  | notError
  /-- What a check ends with is no error. -/
  | notRaisable
  /-- A clause has more or fewer placeholders than parameters. -/
  | clauseArity (fragment : String) (placeholders parameters : Nat)
  /-- A condition has more or fewer placeholders than parameters. -/
  | conditionArity (placeholders parameters : Nat)
  /-- The literal shown is not that of a whole number's text. -/
  | notNumeral (literal : String)
  /-- The text of a whole number has too many digits. -/
  | longNumeral (digits : Nat)
  /-- A value of this kind is not a number. -/
  | notNumber (kind : String)
  /-- An infinity has no whole part. -/
  | infiniteNumber
  /-- The undefined number has no whole part. -/
  | undefinedNumber
  /-- A record type has no attribute of the name. -/
  | noAttribute (recordType member : String)
  /-- A value of this kind has no operation of the name. -/
  | noOperation (kind operation : String)
  /-- Nothing is kept under the key of this literal. -/
  | noEntry (literal : String)
  /-- There is no level of the name of this literal. -/
  | unknownLevel (literal : String)
  /-- The value of this literal neither is a level nor names one. -/
  | notLevel (literal : String)
  /-- A value of this kind cannot be compared with a number. -/
  | incomparable (kind : String)
  /-- The name of a logger is not a text. -/
  | notLoggerName
  /-- The list of calls is empty. -/
  | noCalls
  /-- The ending of a byte string is compared with a text. -/
  | byteEnding
  /-- The value of this literal cannot be that of a bind. -/
  | notBindable (literal : String)
  /-- A bind is supplied that the statement text does not have. -/
  | unrecognisedBind (name : String)
  /-- A bind of a statement text has the name of one that stands for itself. -/
  | bindConflict (name : String)
  /-- A statement text is not a text. -/
  | notText (kind : String)
  /-- A statement text is a byte string. -/
  | byteText
  /-- A loading instruction is none. -/
  | notLoader (literal : String)
  /-- What a loading instruction names is a text. -/
  | textToLoad
  /-- What a loading instruction names is kept in no table. -/
  | unmappedToLoad
  /-- A loading instruction names a column. -/
  | columnToLoad (recordType member : String)
  /-- A loading instruction is about a record type that is not looked for. -/
  | foreignLoader (l : Loader) (sought : String)
  /-- The type of this literal is not that of record types that are kept in tables. -/
  | notMapped (typeLiteral : String)
  /-- A text of this literal is looked for; `remedy` is the way to do so. -/
  | soughtText (literal remedy : String)
  /-- What is looked for is no record type; its items might be meant. -/
  | notSought (literal : String) (items : Option String)
  /-- A variable has a character that no environment can hold. -/
  | emptyCharacter
  /-- The name of a variable has the mark between names and values. -/
  | markInName
  /-- A variable has no name. -/
  | nameless
  /-- No strategy has the name of this literal. -/
  | notStrategy (literal : String)
  /-- The usual value of a setting is of a type whose values may change. -/
  | sharedValue (typeLiteral setting : String)
  /-- The value of a variable is not a text. -/
  | notVariableText (kind : String)
  /-- The statement library is not installed. -/
  | statementsUnavailable
  deriving DecidableEq, Repr

namespace Misuse

/-- The name of the kind of error that a misuse is reported as. -/
def name : Misuse → String
  | nothingToUnpack | noEntryLength _ _ | clauseArity _ _ _ | conditionArity _ _ | notNumeral _
  | longNumeral _ | unwritable .longNumber | undefinedNumber | unknownLevel _ | notRunnable _
  | emptyCharacter | markInName | notStrategy _ | sharedValue _ _ => "ValueError"
  | infiniteNumber => "OverflowError"
  | nameless => "OSError"
  | noAttribute _ _ | noOperation _ _ => "AttributeError"
  | noEntry _ => "KeyError"
  | noCalls => "IndexError"
  | notBindable _ | unrecognisedBind _ | notLoader _ | textToLoad | unmappedToLoad
  | foreignLoader _ _ | soughtText _ _ | notSought _ _ => "ArgumentError"
  | bindConflict _ => "CompileError"
  | columnToLoad _ _ => "LoaderStrategyException"
  | notMapped _ => "NoInspectionAvailable"
  | statementsUnavailable => "ImportError"
  | notIterable _ | notUnpackable _ | notJoinable _ _ | unhashable _ | notEntry _
  | unwritable (.key _)
  | unexpectedArgument _ _ | repeatedArgument _ _ | mergedArgument _ _ | surplusArguments _ _ _ _
  | missingArguments _ _ | noNamed _ | surplus _ | needless | oneOfTwo | noArguments _ | notType _
  | notIndex _ | notFormat _ | noFormat _ | notCallable _ | notAwaitable _ | notName _ | notError
  | notRaisable | notLevel _ | incomparable _ | notLoggerName | notVariableText _ | notNumber _
  | byteEnding | notText _ | byteText => "TypeError"

/-- The limit to the digits of a whole number as it is spoken of, with what is said of the number,
and the way to another limit. -/
def digitLimit (number : String) : String :=
  "Exceeds the limit (" ++ toString Text.Numeral.maxDigits ++
    " digits) for integer string conversion" ++ number ++
    "; use sys.set_int_max_str_digits() to increase the limit"

/-- The ending of a noun that is counted. -/
def plural (count : Nat) : String :=
  if count = 1 then "" else "s"

/-- Names between quotes as they are listed in a sentence. -/
def listed : List String → String
  | [] => ""
  | [a] => "'" ++ a ++ "'"
  | [a, b] => listed [a] ++ " and " ++ listed [b]
  | [a, b, c] => listed [a] ++ ", " ++ listed [b] ++ ", and " ++ listed [c]
  | a :: rest => "'" ++ a ++ "', " ++ listed rest

/-- What went wrong, in words. -/
def message : Misuse → String
  | notIterable kind => "'" ++ kind ++ "' object is not iterable"
  | notUnpackable kind => "cannot unpack non-iterable " ++ kind ++ " object"
  | nothingToUnpack => "not enough values to unpack (expected at least 1, got 0)"
  | notJoinable index kind =>
    "sequence item " ++ toString index ++ ": expected str instance, " ++ kind ++ " found"
  | unhashable kind => "unhashable type: '" ++ kind ++ "'"
  | notEntry index =>
    "cannot convert dictionary update sequence element #" ++ toString index ++ " to a sequence"
  | noEntryLength index length =>
    "dictionary update sequence element #" ++ toString index ++ " has length " ++
      toString length ++ "; 2 is required"
  | unwritable (.key kind) => "keys must be str, int, float, bool or None, not " ++ kind
  | unwritable .longNumber => digitLimit ""
  | unexpectedArgument operation argument =>
    operation ++ "() got an unexpected keyword argument '" ++ argument ++ "'"
  | repeatedArgument operation parameter =>
    operation ++ "() got multiple values for argument '" ++ parameter ++ "'"
  | mergedArgument operation parameter =>
    operation ++ "() got multiple values for keyword argument '" ++ parameter ++ "'"
  | surplusArguments operation parameters given named =>
    operation ++ "() takes " ++ toString parameters ++ " positional argument" ++
      plural parameters ++ " but " ++ toString given ++
      (if named = 0 then "" else " positional argument" ++ plural given ++ " (and " ++
        toString named ++ " keyword-only argument" ++ plural named ++ ")") ++
      (if given = 1 ∧ named = 0 then " was given" else " were given")
  | missingArguments operation parameters =>
    operation ++ "() missing " ++ toString parameters.length ++ " required positional argument" ++
      plural parameters.length ++ ": " ++ listed parameters
  | noNamed operation => operation ++ "() takes no keyword arguments"
  | surplus operation => operation ++ "() takes no arguments (1 given)"
  | needless => "expected 0 arguments, got 1"
  | oneOfTwo => " expected 2 arguments, got 1"
  | noArguments type => type ++ "() takes no arguments"
  | notType kind => "object.__new__(X): X is not a type object (" ++ kind ++ ")"
  | notIndex kind => "'" ++ kind ++ "' object cannot be interpreted as an integer"
  | notFormat kind => "__format__() argument must be str, not " ++ kind
  | noFormat kind => "unsupported format string passed to " ++ kind ++ ".__format__"
  | notCallable kind => "'" ++ kind ++ "' object is not callable"
  | notAwaitable kind => "object " ++ kind ++ " can't be used in 'await' expression"
  | notRunnable literal => "a coroutine was expected, got " ++ literal
  | notName kind => "attribute name must be string, not '" ++ kind ++ "'"
  | notRaisable => "exceptions must derive from BaseException"
  | notError => "exception cause must be None or derive from BaseException"
  | clauseArity fragment placeholders parameters =>
    "Clause " ++ Text.Literal.ofText fragment ++ " has " ++ toString placeholders ++
      " placeholders but " ++ toString parameters ++ " parameters"
  | conditionArity placeholders parameters =>
    "Condition has " ++ toString placeholders ++ " placeholders but " ++ toString parameters ++
      " parameters"
  | notNumeral literal =>
    "invalid literal for int() with base 10: " ++ String.ofList (literal.toList.take 200)
  | longNumeral digits => digitLimit (": value has " ++ toString digits ++ " digits")
  | notNumber kind =>
    "int() argument must be a string, a bytes-like object or a real number, not '" ++ kind ++ "'"
  | infiniteNumber => "cannot convert float infinity to integer"
  | undefinedNumber => "cannot convert float NaN to integer"
  | noAttribute recordType member =>
    "type object '" ++ recordType ++ "' has no attribute '" ++ member ++ "'"
  | noOperation kind operation =>
    "'" ++ kind ++ "' object has no attribute '" ++ operation ++ "'"
  | noEntry literal => literal
  | unknownLevel literal => "Unknown level: " ++ literal
  | notLevel literal => "Level not an integer or a valid string: " ++ literal
  | incomparable kind =>
    "'>=' not supported between instances of 'int' and '" ++ kind ++ "'"
  | notLoggerName => "A logger name must be a string"
  | noCalls => "list index out of range"
  | byteEnding => "endswith first arg must be bytes or a tuple of bytes, not str"
  | notBindable literal => "Object " ++ literal ++ " is not legal as a SQL literal value"
  | unrecognisedBind name =>
    "This text() construct doesn't define a bound parameter named '" ++ name ++ "'"
  | bindConflict name =>
    "Bind parameter '" ++ name ++ "' conflicts with unique bind parameter of the same name"
  | notText kind => "expected string or bytes-like object, got '" ++ kind ++ "'"
  | byteText => "cannot use a string pattern on a bytes-like object"
  | notLoader literal => "ExecutionOption Core or ORM object expected, got " ++ literal ++ "."
  | textToLoad =>
    "Strings are not accepted for attribute names in loader options; please use class-bound " ++
      "attributes directly."
  | unmappedToLoad => "expected ORM mapped attribute for loader strategy argument"
  | columnToLoad recordType member =>
    "Can't apply \"select in loader\" strategy to property \"" ++ recordType ++ "." ++ member ++
      "\", which is a \"column property\"; this loader strategy is intended to be used with a " ++
      "\"relationship property\"."
  | foreignLoader l sought =>
    "Mapped class " ++ l.recordType ++ " referenced in option selectinload(" ++ l.recordType ++
      "." ++ l.member ++ ") does not apply to any of the root entities in this query, e.g. " ++
      sought ++ ". Please specify the full path from one of the root entities to the target " ++
      "attribute. "
  | notMapped typeLiteral =>
    "No inspection system is available for object of type " ++ typeLiteral
  | soughtText literal remedy =>
    "Textual column expression " ++ literal ++ " should be explicitly declared with text(" ++
      literal ++ "), or use " ++ remedy ++ "(" ++ literal ++ ") for more specificity"
  | notSought literal items =>
    "Column expression, FROM clause, or other columns clause element expected, got " ++ literal ++
      "." ++ (items.elim "" fun i => " Did you mean to say select(" ++ i ++ ")?")
  | emptyCharacter => "embedded null byte"
  | markInName => "illegal environment variable name"
  | nameless => "[Errno 22] Invalid argument"
  | notStrategy literal => literal ++ " is not a valid SearchStrategy"
  | sharedValue typeLiteral setting =>
    "mutable default " ++ typeLiteral ++ " for field " ++ setting ++
      " is not allowed: use default_factory"
  | notVariableText kind => "str expected, not " ++ kind
  | statementsUnavailable => "Install 'mp-search[sqlalchemy]' to use the SQLAlchemy adapter"

end Misuse

namespace Value

/-- The literal of the type of a value. -/
def typeLiteral (v : Value) : String :=
  match v with
  | strategy _ => "<enum " ++ Text.Literal.ofText v.kind ++ ">"
  | loader _ _ => "<class 'sqlalchemy.orm.strategy_options." ++ v.kind ++ "'>"
  | error _ e => "<class " ++ Text.Literal.ofText e.fullKind ++ ">"
  | _ => "<class " ++ Text.Literal.ofText v.kind ++ ">"

/-- That a value has no attribute or operation of a name; a record type is called by its name. -/
def lacks (v : Value) (member : String) : Misuse :=
  match v with
  | recordType label => .noAttribute (typeName label) member
  | model m => .noAttribute m.name member
  | _ => .noOperation v.kind member

/-- The plain form of a value where it is needed. -/
def written (v : Value) : Except Misuse String :=
  v.plain.mapError .unwritable

/-- The misuse of a value that shows its literal form. Where it has none, this is what is reported
instead. -/
def misusedAs (v : Value) (misuse : String → Misuse) : Misuse :=
  match v.literal with
  | .ok literal => misuse literal
  | .error why => .unwritable why

end Value

/-- Reads a whole number; the literal is what a refusal shows of the text. -/
def readWhole (literal text : String) : Except Misuse Int :=
  match Text.Numeral.read Text.Numeral.maxDigits text with
  | .ok n => .ok n
  | .error .malformed => .error (.notNumeral literal)
  | .error (.tooLong digits) => .error (.longNumeral digits)

end Searchable
