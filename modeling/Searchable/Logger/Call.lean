import Searchable.Logger.Ability
import Searchable.Universal
import Searchable.Value.Same

/-!
# Calls of loggers

A logger is called by the name of an ability, with one value by place and others by name.
`Logger.call` says what comes of a call: a note, another threshold for the notes of the logger, or
nothing that shows.
-/

namespace Searchable

/-- What comes of the call of a logger. -/
inductive Effect where
  /-- Nothing that shows. -/
  | nothing
  /-- A note. -/
  | note (n : Note)
  /-- Another threshold for the notes of the logger. -/
  | threshold (number : Int)
  deriving Repr

namespace Logger

/-- Refuses names for a logger's own fields that are those of parameters. -/
def checkBound (names : List String) : Except Misuse Unit := do
  Signature.check ⟨"get_logger", [], ["name"], [], true⟩ 1 names
  Signature.check ⟨lazyKind ++ ".bind", [receiver], [], [], true⟩ 1 names

/-- The kinds of errors that have a name, which is not given. -/
def namedErrorKinds : List String :=
  ["AttributeError", "ImportError", "ModuleNotFoundError", "NameError", "UnboundLocalError"]

/-- What a value has as its name. -/
def nameHeld (v : Value) : Except Misuse Value :=
  let held? : Option Value :=
    match v with
    | .strategy s => some (.text s.label)
    | .model m =>
      if m.columns.any fun c => c.1 = "name" then some (.text (m.name ++ ".name")) else none
    | .error _ e => if namedErrorKinds.contains e.kind then some .null else none
    | _ => none
  match held? with
  | some name => .ok name
  | none => .error (v.lacks "name")

/-- What names the logger of a note with some fields: what was brought along as the place where the
note was made, if that has a name. -/
def source (l : Logger) (fields : Entries Value) : Except Misuse Value :=
  match fields.get? Note.originName with
  | none | some .null => .ok (.text l.name)
  | some v => nameHeld v

/-- A note of an event. The fields of the note come after those of the logger; of equal names the
last value counts. -/
def noted (l : Logger) (level : Level) (event : Value) (fields : Entries Value) :
    Except Misuse Effect := do
  Signature.check ⟨readyKind ++ "._proxy_to_logger", [receiver, "method_name"], [Note.eventName],
    [], true⟩ 3 fields.names
  let all := fields.foldl (fun es e => es.put e.1 e.2) l.bound
  return .note ⟨← l.source all, level, event, all⟩

/-- The level of a number. -/
def levelOfNumber (v : Value) : Except Misuse Level :=
  match v.unhashable? with
  | some kind => .error (.unhashable kind)
  | none =>
    match Level.all.find? fun l => Value.same (.int l.number) v with
    | some l => .ok l
    | none => .error (.noEntry v.shownLiteral)

/-- A note at a level that the value by place tells. The event, if there is one, is among the
fields. -/
def notedAt (l : Logger) (level : Level) (fields : Entries Value) : Except Misuse Effect :=
  l.noted level ((fields.get? Note.eventName).getD .null)
    (fields.filter fun e => e.1 != Note.eventName)

/-- The fields of a note of an error; it says that an error is being handled unless a field of its
own does. -/
def failureFields (fields : Entries Value) : Entries Value :=
  if fields.contains Note.handlingName then fields
  else fields ++ [(Note.handlingName, .bool true)]

/-- The numbers of thresholds by name. -/
def thresholdNames : List (String × Int) :=
  (Level.all.map fun l => (l.label, (l.number : Int))) ++
    [("FATAL", (Level.critical.number : Int)), ("WARN", (Level.warning.number : Int)),
      ("NOTSET", 0)]

/-- The threshold that a value is or names. -/
def thresholdOf (v : Value) : Except Misuse Int :=
  match v with
  | .bool b => .ok (if b then 1 else 0)
  | .int n => .ok n
  | .text s =>
    match Entries.get? s thresholdNames with
    | some n => .ok n
    | none => .error (v.misusedAs .unknownLevel)
  | _ => .error (v.misusedAs .notLevel)

/-- Refuses what cannot be compared with a threshold. -/
def checkComparable (v : Value) : Except Misuse Unit :=
  match v.unhashable?, v with
  | some kind, _ => .error (.unhashable kind)
  | none, .bool _ | none, .int _ | none, .float _ => .ok ()
  | none, _ => .error (.incomparable v.kind)

/-- Refuses what cannot go on the name of a logger. -/
def checkSuffix (l : Logger) (v : Value) : Except Misuse Unit :=
  if v.text?.isSome then .ok ()
  else if l.isRoot then .error .notLoggerName
  else .error (.notJoinable 1 v.kind)

/-- Refuses what is no name of a field that a logger adds, where only such a name will do. -/
def checkBoundField (l : Logger) (known : Bool) (v : Value) : Except Misuse Unit :=
  -- Where nothing is added, what need not be known is not even looked for.
  if !known && l.bound.isEmpty then .ok ()
  else
    match v.unhashable? with
    | some kind => .error (.unhashable kind)
    | none =>
      if known && !(v.text?.any fun name => l.bound.contains name) then
        .error (.noEntry v.shownLiteral)
      else .ok ()

/-- Does what a logger is called for, with arguments that fit. -/
def perform (l : Logger) (task : Task) (v : Value) (fields : Entries Value) :
    Except Misuse Effect :=
  match task with
  | .note level => l.noted level v fields
  | .noteFailure => l.noted .error v (failureFields fields)
  | .noteAt => do l.notedAt (← levelOfNumber v) fields
  | .noteNamed =>
    match v.text? with
    | none => .error (.notName v.kind)
    | some name =>
      match Level.ofName? name with
      | some level => l.notedAt level fields
      | none => .error (.noOperation l.coreKind name)
  | .forget known => (l.checkBoundField known v).map fun _ => .nothing
  | .setThreshold => (thresholdOf v).map .threshold
  | .compare => (checkComparable v).map fun _ => .nothing
  | .child => (l.checkSuffix v).map fun _ => .nothing
  | .handle => .error (v.lacks "levelno")
  | .restore =>
    match v with
    | .map _ => .ok .nothing
    | _ => .error (v.lacks "items")
  | .quiet => .ok .nothing

/-- Calls an ability if the arguments fit. -/
def callAbility (l : Logger) (a : Ability) (v : Value) (fields : Entries Value) :
    Except Misuse Effect := do
  a.signature.check a.task.filled fields.names
  l.perform a.task v fields

/-- Calls a logger by the name of an ability, with a value by place and fields by name. What it
does not do by itself, it may do once it is set up. -/
def call (l : Logger) (name : String) (v : Value) (fields : Entries Value) :
    Except Misuse Effect := do
  checkBound l.bound.names
  match l.ownAbility? name, Entries.get? name l.holdings, UniversalOperation.ofName? name with
  | some a, _, _ => l.callAbility a v fields
  | none, some kind, _ => .error (.notCallable kind)
  | none, none, some o => (o.apply l.kind v !fields.isEmpty).map fun _ => .nothing
  | none, none, none =>
    match Entries.get? name readyAbilities with
    | some a => l.callAbility a v fields
    | none => .error (.noOperation readyKind name)

end Logger

end Searchable
