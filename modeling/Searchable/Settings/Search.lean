import Searchable.Level
import Searchable.Schema
import Searchable.Settings
import Searchable.Signature

/-!
# The settings of the search

How the search reports what it does, which finder it calls unless told otherwise, and whether a
record type may be declared twice in different ways. `SearchSettings.ofEntries` refuses a level
that is none and a blank finder; all other values are kept as they are given.
-/

namespace Searchable

/-- The settings of the search. -/
structure SearchSettings where
  /-- What the names of the variables begin with. -/
  family : Value
  /-- The least level of the events that are written. -/
  level : Level
  /-- Whether log lines are interchange texts. -/
  asJson : Value
  /-- The finder that is called unless another is declared. -/
  finder : Value
  /-- Whether a second, different declaration of a record type is refused. -/
  strict : Value
  deriving Repr

namespace SearchSettings

/-- What the names of the variables begin with. -/
def usualFamily : String := "MP_SEARCH"

/-- The settings that hold unless others are given. -/
def usual : SearchSettings :=
  ⟨.text usualFamily, .info, .bool true, .text usualFinder, .bool false⟩

/-- The values by name. -/
def entries (s : SearchSettings) : Entries Value :=
  [("_prefix", s.family), ("log_level", .text s.level.label), ("log_json", s.asJson),
    ("default_finder", s.finder), ("strict_reregistration", s.strict)]

/-- A text in upper case; of a byte string only the ASCII letters have one. -/
def upperOf : Value → Except Misuse Value
  | .bytes bs => .ok (.bytes (bs.map fun b => if 0x61 ≤ b && b ≤ 0x7A then b - 0x20 else b))
  | v =>
    match v.text? with
    | some s => .ok (.text (Text.upper s))
    | none => .error (v.lacks "upper")

/-- Whether a text or byte string has nothing that is not blank. -/
def isBlankName : Value → Except Misuse Bool
  | .bytes bs => .ok (bs.all fun b => b == 0x20 || 0x9 ≤ b && b ≤ 0xD)
  | v =>
    match v.text? with
    | some s => .ok (Text.isBlank s)
    | none => .error (v.lacks "strip")

/-- What a level has to be. -/
def levelDemand : String :=
  "expected one of " ++ (Value.list (Level.labels.map .text)).shownLiteral

/-- The level that a value names in any case. -/
def levelOf (v : Value) : Except Failure Level := do
  let upper ← (upperOf v).mapError .misuse
  match upper.text?.bind Level.ofLabel? with
  | some l => .ok l
  | none => .error (.ofCause (.invalidSetting (.text "log_level") upper (.text levelDemand)))

/-- A finder's name unless it is blank. -/
def finderOf (v : Value) : Except Failure Value := do
  if ← (isBlankName v).mapError .misuse then
    .error (.ofCause (.invalidSetting (.text "default_finder") v (.text "must not be blank")))
  else .ok v

/-- The parameters by which settings are given. -/
def signature : Signature :=
  ⟨"SearchSettings.__init__", [receiver], usual.entries.names, [], false⟩

/-- The settings with the given values; those that are not given are the usual ones. -/
def ofEntries (es : Entries Value) : Except Failure SearchSettings := do
  (signature.check 1 es.names).mapError .misuse
  let level ← levelOf ((es.get? "log_level").getD (.text usual.level.label))
  let finder ← finderOf ((es.get? "default_finder").getD usual.finder)
  return ⟨(es.get? "_prefix").getD usual.family, level,
    (es.get? "log_json").getD usual.asJson, finder,
    (es.get? "strict_reregistration").getD usual.strict⟩

/-- The plan by which these settings are read from an environment. -/
def plan : Plan :=
  .ofFamily usualFamily
    [⟨"log_level", .text, some (.text usual.level.label)⟩, ⟨"log_json", .truth, some usual.asJson⟩,
      ⟨"default_finder", .text, some usual.finder⟩,
      ⟨"strict_reregistration", .truth, some usual.strict⟩]
    fun values => ((ofEntries values).map entries).mapError .own

end SearchSettings

/-- The plan of the settings that every part of a program has. -/
def Plan.bare : Plan :=
  .ofFamily "" [] .ok

end Searchable
