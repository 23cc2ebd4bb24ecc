import Searchable.Misuse

/-!
# What every value can be asked

Every value can be compared, shown and asked for what it has. The operations for this take nothing
by name and know nothing of records. `UniversalOperation.apply` says what a call of one gives, or
how it fails.
-/

namespace Searchable

/-- What an operation gives that gives no records. -/
structure Product where
  /-- Its kind. -/
  kind : String
  /-- Its literal form, if it has one, unless that changes from one time to the next. -/
  literal? : Option (Except Unwritable String)
  deriving Repr

/-- A value as a product. -/
def Product.ofValue (v : Value) : Product :=
  ⟨v.kind, some v.literal⟩

/-- What an operation that every value has takes by place, and does. -/
inductive UniversalForm where
  /-- Another value, with which the value is compared. -/
  | comparison
  /-- A type of values, with which that of the value is compared. -/
  | typeComparison
  /-- The name of something that the value has. -/
  | access
  /-- The name of something that the value has and another value for it. -/
  | assignment
  /-- Nothing; the operation shows the value. -/
  | showing
  /-- A description of how to show the value. -/
  | formatting
  /-- Nothing; the operation describes the type of the value. -/
  | describing
  /-- The number of a format in which the value is taken apart. -/
  | reducing
  /-- A type of values, one of which is made. -/
  | making
  deriving DecidableEq, Repr

/-- An operation that every value has. -/
structure UniversalOperation where
  /-- Its name. -/
  name : String
  /-- What it takes. -/
  form : UniversalForm
  deriving DecidableEq, Repr

namespace UniversalOperation

/-- The operations that every value has. -/
def all : List UniversalOperation :=
  ["__eq__", "__ne__", "__lt__", "__le__", "__gt__", "__ge__"].map (⟨·, .comparison⟩) ++
    ["__getattribute__", "__delattr__"].map (⟨·, .access⟩) ++
    ["__hash__", "__repr__", "__str__"].map (⟨·, .showing⟩) ++
    ["__dir__", "__getstate__", "__init_subclass__", "__reduce__", "__sizeof__"].map
      (⟨·, .describing⟩) ++
    [⟨"__subclasshook__", .typeComparison⟩, ⟨"__setattr__", .assignment⟩,
      ⟨"__format__", .formatting⟩, ⟨"__reduce_ex__", .reducing⟩, ⟨"__new__", .making⟩]

/-- The operation of a name. -/
def ofName? (name : String) : Option UniversalOperation :=
  all.find? fun o => o.name = name

/-- The name by which an operation of a kind of values is reported. -/
def label (o : UniversalOperation) (kind : String) : String :=
  match o.form with
  | .comparison | .access | .assignment | .showing => "wrapper " ++ o.name
  | .typeComparison | .making => o.name
  | .formatting | .describing | .reducing => kind ++ "." ++ o.name

/-- What the comparison of values of different kinds gives: nothing is said. -/
def undecided : Product :=
  ⟨"NotImplementedType", some (.ok "NotImplemented")⟩

/-- Makes a value of a type; one without parts takes nothing by name. -/
def made (type : Value) (isNamed : Bool) : Except Misuse Product :=
  match type with
  | .recordType label =>
    if isNamed then .error (.noArguments (Value.typeName label))
    else .ok ⟨Value.typeName label, none⟩
  | .model m => .ok ⟨m.name, none⟩
  | _ => .error (.notType type.kind)

/-- What a call of an operation of a kind of values gives that has an argument by place only. -/
def applied (o : UniversalOperation) (kind : String) (argument : Value) :
    Except Misuse Product :=
  match o.form with
  | .comparison | .typeComparison => .ok undecided
  | .access =>
    match argument.text? with
    | some name => .error (.noOperation kind name)
    | none => .error (.notName argument.kind)
  | .assignment => .error .oneOfTwo
  | .showing => .error .needless
  | .formatting =>
    match argument.text? with
    | some "" => .ok ⟨"str", none⟩
    | some _ => .error (.noFormat kind)
    | none => .error (.notFormat argument.kind)
  | .describing => .error (.surplus (o.label kind))
  | .reducing =>
    match argument with
    | .bool _ | .int _ => .ok ⟨"tuple", none⟩
    | _ => .error (.notIndex argument.kind)
  | .making => made argument false

/-- What a call of an operation of a kind of values gives, with an argument by place and perhaps
others by name. -/
def apply (o : UniversalOperation) (kind : String) (argument : Value) (isNamed : Bool) :
    Except Misuse Product :=
  if isNamed then
    match o.form with
    | .making => made argument true
    | _ => .error (.noNamed (o.label kind))
  else o.applied kind argument

end UniversalOperation

end Searchable
