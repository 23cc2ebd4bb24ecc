import Searchable.Store

/-!
# Sessions

A registry and a store together. `Session.search` is a query compiled and then dispatched to the
finder of its schema; `Session.step` performs any operation, and `Session.run` one after the other.
An operation that fails leaves the session as it was.
-/

namespace Searchable

/-- A registry and the store that its searches go to. -/
structure Session where
  /-- The schemas. -/
  registry : Registry
  /-- The store. -/
  store : Store

/-- Something that a session can be asked to do. -/
inductive Operation where
  /-- Registers a record type. -/
  | register (recordType : Value) (d : Declaration)
  /-- Asks whether a record type is registered. -/
  | contains (recordType : Value)
  /-- Asks for the schema of a record type. -/
  | get (recordType : Value)
  /-- Asks for the names that a request for a record type may use. -/
  | requestNames (recordType : Value)
  /-- Compiles a query. -/
  | compile (i : Inquiry)
  /-- Compiles a query and has the store answer it. -/
  | search (i : Inquiry)
  /-- Calls an operation of the store by its name, with further arguments by name. -/
  | call (name : String) (recordType : Value) (named : Entries Value)
  deriving Repr

/-- What an operation gives. -/
inductive Answer where
  /-- A schema. -/
  | schema (s : Schema)
  /-- A truth value. -/
  | truth (b : Bool)
  /-- Names. -/
  | names (names : List String)
  /-- What a finder would be given. -/
  | request (r : Request)
  /-- What a finder gave. -/
  | found (v : Value)
  deriving Repr

namespace Session

/-- Looks up the finder of a record type's schema. -/
def finderFor (s : Session) (recordType : Value) : Except Failure (Value × Service) := do
  let schema ← s.registry.get recordType
  let service ← s.store.finder schema.finder
  return (schema.finder, service)

/-- Hands a request to the finder of its record type. -/
def dispatch (s : Session) (recordType : Value) (r : Request) : Outcome Session Value :=
  match s.finderFor recordType with
  | .error e => .look s (.error e)
  | .ok (name, service) =>
    -- The event comes before the call and stands even if the call fails.
    let found := s.store.call Product.notAwaited service recordType r.named
    ⟨⟨s.registry, found.state⟩, found.answer, .dispatched name :: found.events⟩

/-- Compiles a query and has the store answer it. -/
def search (s : Session) (q : Query) : Outcome Session Value :=
  let compiled := s.registry.compile q
  match compiled.answer with
  | .error e => ⟨s, .error e, compiled.events⟩
  | .ok r =>
    let dispatched := s.dispatch q.recordType r
    ⟨dispatched.state, dispatched.answer, compiled.events ++ dispatched.events⟩

/-- Performs one operation. -/
def step (s : Session) (op : Operation) : Outcome Session Answer :=
  match op with
  | .register recordType d => (s.registry.register recordType d).map (⟨·, s.store⟩) .schema
  | .contains recordType => .look s ((s.registry.contains recordType).map .truth)
  | .get recordType => .look s ((s.registry.get recordType).map .schema)
  | .requestNames recordType => .look s ((s.registry.requestNames recordType).map .names)
  | .compile i =>
    match i.query "compile" with
    | .error m => .look s (.error (.misuse m))
    | .ok q => (s.registry.compile q).map (⟨·, s.store⟩) .request
  | .search i =>
    match i.query "search" with
    | .error m => .look s (.error (.misuse m))
    | .ok q => (s.search q).map id .found
  | .call name recordType named =>
    (s.store.callNamed name recordType named).map (⟨s.registry, ·⟩) .found

/-- The session after some operations. -/
def run (s : Session) (ops : List Operation) : Session :=
  ops.foldl (fun s op => (s.step op).state) s

end Session

end Searchable
