import Searchable.Raised
import Searchable.Settings.Environment
import Searchable.Text.Upper

/-!
# Settings from an environment

A plan says what settings a part of a program has: their names, what the text of a variable is read
as, what stands in for an absent variable, and a check of all values together. `Plan.load` reads
the settings from an environment. A setting is looked up under its variable, a name in upper case
that the plan's family and the setting's name determine.
-/

namespace Searchable

/-- What the text of a variable is read as. -/
inductive Hint where
  /-- A truth value. -/
  | truth
  /-- A whole number. -/
  | number
  /-- The text itself. -/
  | text
  deriving DecidableEq, Repr

namespace Hint

/-- The texts that stand for true, in lower case. -/
def affirmations : List String :=
  ["1", "true", "yes", "on"]

/-- Whether a text stands for true; case does not count. No letter outside ASCII has one of the
letters of these words as its lower case. -/
def isAffirmative (s : String) : Bool :=
  affirmations.contains (String.ofList (s.toList.map Char.toLower))

/-- Reads the text of a variable. Only a text that should be a whole number can be refused. -/
def read (h : Hint) (raw : String) : Except Misuse Value :=
  match h with
  | truth => .ok (.bool (isAffirmative raw))
  | number => (readWhole (Text.Literal.ofText raw) raw).map .int
  | text => .ok (.text raw)

end Hint

/-- A setting. -/
structure Setting where
  /-- The name of the setting. -/
  name : String
  /-- What the text of its variable is read as. -/
  hint : Hint
  /-- The value where the variable is absent; without one the variable is required. -/
  usual : Option Value

/-- Refuses a value in place of an absent variable that every use of the plan would share although
it may change; a list is made anew each time. -/
def Setting.check (s : Setting) : Except Misuse Unit :=
  match s.usual with
  | some (.map entries) => .error (.sharedValue (Value.map entries).typeLiteral s.name)
  | some (.set items) => .error (.sharedValue (Value.set items).typeLiteral s.name)
  | _ => .ok ()

/-- The settings of a part of a program. -/
structure Plan where
  /-- What the names of the variables begin with. -/
  family : String
  /-- The settings in order. -/
  settings : List Setting
  /-- Looks at all values together and may change them. -/
  check : Entries Value → Except Raised (Entries Value)

/-- The setting that holds the family itself, which is always the first. -/
def familySetting (family : String) : Setting :=
  ⟨"_prefix", .text, some (.text family)⟩

/-- The variable of a setting. -/
def variableName (family name : String) : String :=
  let joined := Text.upper (Text.upper family ++ "_" ++ name)
  String.ofList (joined.toList.dropWhile (· == '_'))

/-- The refusal of settings because of an error. -/
def Raised.loadFailure (e : Raised) : Failure :=
  match e.text with
  | .ok text => .fault ⟨.loadFailed text, .null, some e.view⟩
  | .error why => .misuse (.unwritable why)

namespace Plan

/-- The plan of a family with the given settings after that of the family. -/
def ofFamily (family : String) (settings : List Setting)
    (check : Entries Value → Except Raised (Entries Value)) : Plan :=
  ⟨family, familySetting family :: settings, check⟩

/-- The value of one setting. -/
def readSetting (p : Plan) (env : Environment) (s : Setting) : Except Failure Value :=
  let variableOf := variableName p.family s.name
  match env.get? variableOf with
  | some raw => (s.hint.read raw).mapError .misuse
  | none =>
    match s.usual with
    | some v => .ok v
    | none => .error (.ofCause (.missingSetting (.text variableOf)))

/-- The values of settings in order; the first that cannot be read is reported. -/
def readSettings (p : Plan) (env : Environment) : List Setting → Except Failure (Entries Value)
  | [] => .ok []
  | s :: rest => do
    let v ← p.readSetting env s
    let es ← p.readSettings env rest
    return (s.name, v) :: es

/-- The failure for an error of the check. One that says that the configuration is wrong stands, and
any other becomes the origin of one that does. -/
def failureOf (e : Raised) : Failure :=
  match e with
  | .own f => if e.isConfig then f else e.loadFailure
  | .foreign _ => e.loadFailure

/-- Checks all values together. -/
def checked (p : Plan) (values : Entries Value) : Except Failure (Entries Value) :=
  (p.check values).mapError failureOf

/-- Reads the settings of a plan from an environment. -/
def load (p : Plan) (env : Environment) : Except Failure (Entries Value) := do
  let values ← p.readSettings env p.settings
  p.checked values

end Plan

end Searchable
