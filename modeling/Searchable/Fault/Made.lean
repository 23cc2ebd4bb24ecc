import Searchable.Fault
import Searchable.Signature

/-!
# Making faults

A fault may be made of arguments by place and by name. Each kind has parameters of its own for the
data of its cause. Those kinds that take other arguments by name hand them on to the parameters that
every fault has, where a description of details is set by the kind itself.
-/

namespace Searchable

namespace Kind

/-- The parameters that every fault has. -/
def commonSignature : Signature :=
  ⟨base.name ++ ".__init__", [receiver, "message"], [], ["code", "detail", "cause"], false⟩

/-- The parameters of a kind that are filled by place, but for the fault itself. -/
def dataNames : Kind → List String
  | base | registration | search | config => ["message"]
  | invalidStrategy => ["column", "strategy"]
  | unknownColumn => ["column", "record_type"]
  | argumentConflict => ["key"]
  | unknownSearchColumn => ["column"]
  | invalidRange => ["column", "strategy", "value"]
  | finderNotFound => ["finder", "executor"]
  | schemaNotRegistered => ["record_type"]
  | missingSetting => ["setting_name"]
  | invalidSetting => ["setting_name", "value", "reason"]

/-- The parameters of a kind. -/
def signature (k : Kind) : Signature :=
  match k with
  | base | registration | search | config => commonSignature
  | missingSetting | invalidSetting =>
    ⟨k.name ++ ".__init__", receiver :: k.dataNames, [], [], false⟩
  | invalidRange => ⟨k.name ++ ".__init__", receiver :: k.dataNames, [], ["reason"], true⟩
  | _ => ⟨k.name ++ ".__init__", receiver :: k.dataNames, [], [], true⟩

/-- The name in full of the operation that gives a fault what every fault has. -/
def commonOperation : String :=
  base.place ++ "." ++ commonSignature.operation

/-- The names that a kind hands on. -/
def handedOn (k : Kind) (names : List String) : List String :=
  if k.signature.takesMore then
    names.filter fun n => !(k.dataNames ++ k.signature.named).contains n
  else []

/-- Refuses names that a kind hands on and that no fault has, or that the kind sets itself. -/
def checkHandedOn (k : Kind) (names : List String) : Except Misuse Unit :=
  let names := k.handedOn names
  if names.contains "detail" then .error (.mergedArgument commonOperation "detail")
  else commonSignature.check 2 names

end Kind

/-- The details that a value describes: those of a map, and none for a value that does not count as
true. -/
def detailOf (v : Value) : Except Misuse (List (Value × Value)) :=
  if v.isTrue then
    match v with
    | .map entries => .ok entries
    | _ => .error (v.lacks "items")
  else .ok []

/-- The error that a value is; nothing is none. -/
def originOf (v : Value) : Except Misuse (Option ErrorView) :=
  match v with
  | .null => .ok none
  | .error _ e => .ok (some e)
  | _ => .error .notError

/-- The cause of a kind with its data by name and its details. -/
def Cause.ofData (k : Kind) (data : Entries Value) (detail : List (Value × Value)) : Cause :=
  let value (name : String) : Value := (data.get? name).getD .null
  match k with
  | .base | .registration | .search | .config => .general k (value "message") detail
  | .invalidStrategy => .invalidStrategy (value "column") (value "strategy")
  | .unknownColumn => .unknownColumn (value "column") (value "record_type")
  | .argumentConflict => .argumentConflict (value "key")
  | .unknownSearchColumn => .unknownSearchColumn (value "column")
  | .invalidRange =>
    .invalidRange (value "column") (value "strategy") (value "value") (value "reason")
  | .finderNotFound => .finderNotFound (value "finder") (value "executor")
  | .schemaNotRegistered => .schemaNotRegistered (value "record_type")
  | .missingSetting => .missingSetting (value "setting_name")
  | .invalidSetting => .invalidSetting (value "setting_name") (value "value") (value "reason")

/-- The fault of a kind that is made of arguments by place and by name. Its message is written
before anything is handed on. -/
def Fault.make (k : Kind) (placed : List Value) (named : Entries Value) : Except Misuse Fault := do
  k.signature.check (placed.length + 1) named.names
  let data := k.dataNames.zip placed ++ named
  (Cause.ofData k data []).checkShown
  k.checkHandedOn named.names
  let origin ← originOf ((named.get? "cause").getD .null)
  let detail ← detailOf ((named.get? "detail").getD .null)
  return ⟨.ofData k data detail, (named.get? "code").getD .null, origin⟩

end Searchable
