import Searchable.Universal
import Searchable.Outcome
import Searchable.Request
import Searchable.Statement.Written

/-!
# Stores

Where records are looked for. A store has operations that are called by name, among them its
finders, and it keeps the calls of finders that were made. A store in memory keeps the arguments of
a call as they are; a store of tables turns them into a statement, which fails where they make no
sense. Both answer with the records that they were given.
-/

namespace Searchable

/-- How many records a finder gives. -/
inductive Finder where
  /-- All of them. -/
  | all
  /-- The first, if there is one. -/
  | first
  deriving DecidableEq, Repr

namespace Finder

/-- The name by which a finder is called. -/
def name : Finder → String
  | all => "find_all"
  | first => "find_first"

/-- The finder of a name. -/
def ofName? (name : String) : Option Finder :=
  [all, first].find? fun f => f.name = name

/-- The names tell the finders apart. -/
theorem ofName?_name (f : Finder) : ofName? f.name = some f := by
  cases f <;> decide

/-- What a finder gives of some records. -/
def select (f : Finder) (records : List Value) : Value :=
  match f with
  | all => .list records
  | first => records.head?.getD .null

end Finder

/-- The arguments of a call as a store in memory keeps them. -/
structure Arguments where
  /-- The expression and its parameters. -/
  conditions : Value
  /-- The order of the answers. -/
  order : Value
  /-- What to load along with each record. -/
  related : Value
  /-- All else. -/
  options : Entries Value
  deriving Repr

namespace Arguments

/-- The names of the arguments that every finder knows. -/
def commonNames : List String :=
  ["conditions", "order", "include"]

/-- The arguments that are given by name; what is not given is nothing. -/
def ofNamed (named : Entries Value) : Arguments :=
  ⟨(named.get? "conditions").getD .null, (named.get? "order").getD .null,
    (named.get? "include").getD .null, named.filter fun e => !commonNames.contains e.1⟩

end Arguments

/-- A call of a finder, as the store keeps it. -/
inductive Call where
  /-- The arguments as they were given. -/
  | plain (finder recordType : Value) (arguments : Arguments)
  /-- The statement that the arguments were turned into. -/
  | statement (s : Statement)
  deriving Repr

/-- The kinds of stores. -/
inductive StoreKind where
  /-- The records are in memory. -/
  | memory
  /-- The records are in tables. -/
  | tables
  deriving DecidableEq, Repr

/-- What a store can be asked to do besides finding records. -/
inductive Chore where
  /-- Keeps a call. -/
  | keep
  /-- Sets the store up. -/
  | setUp
  /-- Makes another store. -/
  | make
  /-- Builds a statement. -/
  | state
  /-- Lists the instructions to load. -/
  | load
  /-- Does what every value can do. -/
  | universal (o : UniversalOperation)
  /-- Fails however it is called. -/
  | refuse (m : Misuse)
  deriving DecidableEq, Repr

/-- What a store can be asked to do by name. A search that calls what is no finder fails. -/
inductive Service where
  /-- Finds records. -/
  | find (f : Finder)
  /-- Does something else. -/
  | chore (c : Chore)
  deriving DecidableEq, Repr

namespace StoreKind

/-- The name of a kind of stores in messages. -/
def name : StoreKind → String
  | memory => "InMemorySearchExecutor"
  | tables => "SqlAlchemySearchExecutor"

/-- The names of the operations of a kind of stores that are no finders. -/
def ownChores : StoreKind → List (String × Chore)
  | memory => [("_record", .keep), ("__init__", .setUp), ("__class__", .make)]
  | tables =>
    [("build_statement", .state), ("_loader_options", .load), ("__init__", .setUp),
      ("__class__", .make)]

/-- The operation of a name. -/
def service? (k : StoreKind) (name : String) : Option Service :=
  match Finder.ofName? name with
  | some f => some (.find f)
  | none =>
    ((Entries.get? name k.ownChores).or
      ((UniversalOperation.ofName? name).map Chore.universal)).map .chore

/-- The name under which a store of tables holds them. -/
def tablesName : String := "_session"

/-- The names of what a kind of stores holds of its own besides operations, and the kinds of these
values. -/
def ownHoldings : StoreKind → List (String × String)
  | memory => [("calls", "list"), ("results", "list"), ("last_call", "FinderCall")]
  | tables => [(tablesName, "FakeSession")]

/-- The names of what a kind of stores holds besides operations, and the kinds of these values. -/
def holdings (k : StoreKind) : List (String × String) :=
  k.ownHoldings ++
    [("__doc__", "str"), ("__module__", "str"), ("__dict__", "dict"), ("__weakref__", "NoneType")]

/-- The parameters of a finder. -/
def finderSignature (k : StoreKind) (f : Finder) : Signature :=
  ⟨k.name ++ "." ++ f.name, [receiver, "record_type"], [],
    match k with
    | memory => Arguments.commonNames
    | tables => [], true⟩

/-- The parameters of an operation that is no finder. One that every value has refuses arguments in
its own way. -/
def choreSignature (k : StoreKind) (c : Chore) : Signature :=
  match c with
  | .universal o => ⟨o.label k.name, [], [], [], true⟩
  | .refuse _ => ⟨"", [], [], [], true⟩
  | .keep =>
    ⟨k.name ++ "._record",
      [receiver, "finder", "record_type", "conditions", "order", "include", "options"], [], [],
      false⟩
  | .setUp | .make =>
    match k with
    | memory => ⟨k.name ++ ".__init__", [receiver], ["results"], [], false⟩
    | tables => ⟨k.name ++ ".__init__", [receiver, "session"], [], [], false⟩
  | .state => Statement.signature
  | .load => ⟨k.name ++ "._loader_options", ["record_type", "include"], [], [], false⟩

/-- The parameters of an operation. -/
def signature (k : StoreKind) : Service → Signature
  | .find f => k.finderSignature f
  | .chore c => k.choreSignature c

end StoreKind

/-- The number of parameters that a call fills by place: the store itself, if the operation needs
it, and the record type. -/
def Service.filled : Service → Nat
  | .chore (.universal _) | .chore (.refuse _) => 0
  | .chore .load => 1
  | _ => 2

/-- A store with the calls that were made so far. -/
structure Store where
  /-- Its kind. -/
  kind : StoreKind
  /-- Which values its statements do not take as those of binds. -/
  refuses : Value → Bool
  /-- The records with which it answers. -/
  records : List Value
  /-- The calls, the oldest first. -/
  calls : List Call
  /-- The value that a store of tables was given in place of its tables. -/
  standIn : Option Value

/-- The arguments that a request stands for, by name. -/
def Request.named (r : Request) : Entries Value :=
  [("conditions", (r.conditions.map Value.tuple).getD .null),
    ("order", (r.order.map Value.text).getD .null), ("include", r.related)] ++ r.options

/-- How a search fails that gets something else than records, for which it would wait. -/
def Product.notAwaited (p : Product) : Misuse :=
  .notAwaitable p.kind

/-- How a direct call fails that gives something else than records. -/
def Product.notRun (p : Product) : Misuse :=
  match p.literal? with
  | none => .notRunnable ("<" ++ p.kind ++ ">")
  | some (.ok literal) => .notRunnable literal
  | some (.error why) => .unwritable why

namespace Store

/-- A store in memory without calls. It makes no statements. -/
def inMemory (records : List Value) : Store :=
  ⟨.memory, fun _ => false, records, [], none⟩

/-- A store of tables without calls. -/
def ofTables (refuses : Value → Bool) (records : List Value) : Store :=
  ⟨.tables, refuses, records, [], none⟩

/-- The name under which a store in memory shows its last call, which it cannot before the first. -/
def lastCallName : String := "last_call"

/-- The last call, if there was one. -/
def lastCall (s : Store) : Except Misuse Call :=
  match s.calls.getLast? with
  | some c => .ok c
  | none => .error .noCalls

/-- What a call of a value gives that stands in for tables, if it can be called: a record type makes
records, but not of other record types. -/
def standInChore? : Value → Option Chore
  | .recordType label => some (.refuse (.noArguments (Value.typeName label)))
  | .model _ => some (.refuse (.surplusArguments "__init__" 1 2 0))
  | _ => none

/-- The operation of a name, if the name is that of one. -/
def service? (s : Store) (name : String) : Except Misuse (Option Service) :=
  -- Asking a store in memory for its last call fails before it is seen to be no operation.
  if s.kind = .memory ∧ name = lastCallName then s.lastCall.map fun _ => none
  else if name = StoreKind.tablesName then .ok ((s.standIn.bind standInChore?).map .chore)
  else .ok (s.kind.service? name)

/-- The names of what the store holds besides operations, and the kinds of these values. -/
def holdings (s : Store) : List (String × String) :=
  (s.standIn.map fun v => (StoreKind.tablesName, v.kind)).toList ++ s.kind.holdings

/-- The operation that a declared finder names. -/
def finder (s : Store) (name : Value) : Except Failure Service :=
  match name.text? with
  | none => .error (.misuse (.notName name.kind))
  | some text => do
    match ← (s.service? text).mapError .misuse with
    | some service => return service
    | none => .error (.ofCause (.finderNotFound name (.text s.kind.name)))

/-- What a store keeps of the call of a finder. The finder for the first record asks for one record
only. -/
def callOf (s : Store) (f : Finder) (recordType : Value) (named : Entries Value) :
    Except Misuse Call :=
  match s.kind with
  | .memory => .ok (.plain (.text f.name) recordType (.ofNamed named))
  | .tables =>
    -- A limit of the caller's is replaced where it stands.
    let limited :=
      match f with
      | .all => named
      | .first => named.put "limit" (.int 1)
    match s.standIn with
    | none => (Statement.build s.refuses recordType limited).map .statement
    | some v => .error (v.lacks "execute")

/-- Calls a finder with arguments that fit. -/
def find (s : Store) (f : Finder) (recordType : Value) (named : Entries Value) :
    Outcome Store Value :=
  match s.callOf f recordType named with
  | .error m => .look s (.error (.misuse m))
  | .ok c => ⟨{ s with calls := s.calls ++ [c] }, .ok (f.select s.records), []⟩

/-- The store set up with a value: one in memory has other records and no calls, and for one of
tables the value stands in for them. -/
def setUp (s : Store) (v : Value) : Except Misuse Store :=
  match s.kind with
  | .tables => .ok { s with standIn := some v }
  | .memory =>
    if v.isTrue then
      match v.items? with
      | some records => .ok (.inMemory records)
      | none => .error (.notIterable v.kind)
    else .ok (.inMemory [])

/-- The key and value that an item describes, which has the given index. -/
def entryOf (index : Nat) (item : Value) : Except Misuse (Value × Value) :=
  match item.items? with
  | some [key, value] =>
    match key.unhashable? with
    | some kind => .error (.unhashable kind)
    | none => .ok (key, value)
  | some items => .error (.noEntryLength index items.length)
  | none => .error (.notEntry index)

/-- The name of an option whose key may be any value. -/
def optionName (key : Value) : String :=
  key.text?.getD key.shownLiteral

/-- The options that a value describes: a map, or items that are pairs of a name and a value. -/
def optionsOf (v : Value) : Except Misuse (Entries Value) :=
  match v, v.items? with
  | .map entries, _ => .ok (entries.map fun e => (optionName e.1, e.2))
  | _, some items => do
    let entries ← items.zipIdx.mapM fun i => entryOf i.2 i.1
    return (Value.mergeEntries entries).map fun e => (optionName e.1, e.2)
  | _, none => .error (.notIterable v.kind)

/-- The store with one more call, which is described by a finder's name and by arguments. -/
def keep (s : Store) (finder : Value) (named : Entries Value) : Except Misuse Store := do
  let argument (name : String) : Value := (named.get? name).getD .null
  let options ← optionsOf (argument "options")
  return { s with
    calls := s.calls ++ [.plain finder (argument "record_type")
      ⟨argument "conditions", argument "order", argument "include", options⟩] }

/-- What an operation that is no finder gives once its arguments fit, and the store after it. -/
def perform (s : Store) (c : Chore) (recordType : Value) (named : Entries Value) :
    Except Misuse (Product × Store) :=
  match c with
  | .keep => (s.keep recordType named).map (.ofValue .null, ·)
  | .setUp => (s.setUp recordType).map (.ofValue .null, ·)
  | .make => (s.setUp recordType).map fun _ => (⟨s.kind.name, none⟩, s)
  | .state => (Statement.build s.refuses recordType named).map fun _ => (⟨"Select", none⟩, s)
  | .load =>
    (Loader.listProduct recordType (Statement.argument named "include")).map (·, s)
  | .universal o => (o.apply s.kind.name recordType !named.isEmpty).map (·, s)
  | .refuse m => .error m

/-- Calls an operation with a record type and with arguments by name. Whoever calls it waits for
records, and fails with `refusal` if it gives something else. -/
def call (s : Store) (refusal : Product → Misuse) (service : Service) (recordType : Value)
    (named : Entries Value) : Outcome Store Value :=
  match (s.kind.signature service).check service.filled named.names with
  | .error m => .look s (.error (.misuse m))
  | .ok _ =>
    match service with
    | .find f => s.find f recordType named
    | .chore c =>
      match s.perform c recordType named with
      | .error m => .look s (.error (.misuse m))
      | .ok (p, next) => .look next (.error (.misuse (refusal p)))

/-- Calls the operation of a name, which has to be that of one. -/
def callNamed (s : Store) (name : String) (recordType : Value) (named : Entries Value) :
    Outcome Store Value :=
  match s.service? name with
  | .error m => .look s (.error (.misuse m))
  | .ok (some service) => s.call Product.notRun service recordType named
  | .ok none =>
    match Entries.get? name s.holdings with
    | some kind => .look s (.error (.misuse (.notCallable kind)))
    | none => .look s (.error (.misuse (.noOperation s.kind.name name)))

end Store

end Searchable
