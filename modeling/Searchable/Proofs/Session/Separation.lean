import Searchable.Proofs.Request.Arguments
import Searchable.Proofs.Session.History

/-!
# Record types are kept apart

What a session answers and reports about one record type does not depend on what it is asked about
others. `Session.transcript` is a run with what each operation came to, and `Operation.concerns`
says which operations ask the registry about a record type, in whatever form. `Session.KeepsApart`
states the independence in two ways: operations that concern no other form of the type can be
deleted from a run, and two runs that interleave the same operations on each type answer them alike.

The proof compares a run with what is left of it. `Registry.AgreesOn` relates two registries that
hold the same of one record type. Operations on that type answer alike in both and keep them related
(`Session.step_of_concerns`), and all others leave what is held of the type as it is
(`Session.agreesOn_step`). By induction on the run, the deleted operations make no difference
(`Session.transcriptOf_eq`).
-/

namespace Searchable

/-- Two forms of a key are the same key both ways. -/
theorem Value.isSameKey_symm {a b : Value} (h : isSameKey a b = true) : isSameKey b a = true := by
  obtain ⟨hkeys, hsame⟩ := isSameKey_iff.1 h
  exact isSameKey_iff.2 ⟨hkeys.symm, same_symm hsame⟩

/-- Whether an operation asks the registry about a record type, in whatever form of it. Searches and
calls also ask the store. -/
def Operation.concerns (recordType : Value) : Operation → Bool
  | .register other _ | .contains other | .get other | .requestNames other =>
    Value.isSameKey other recordType
  | .compile i => Value.isSameKey i.recordType recordType
  | .search _ | .call _ _ _ => false

/-- An operation of a run with what it came to. -/
structure Report where
  /-- The operation. -/
  operation : Operation
  /-- The answer, or why there is none. -/
  answer : Except Failure Answer
  /-- What happened, in order. -/
  events : List Event

namespace Registry

variable {r r' : Registry} {recordType other : Value} {d : Declaration} {q : Query}

/-- Two registries hold the same of a record type and judge new declarations alike. -/
structure AgreesOn (recordType : Value) (r r' : Registry) : Prop where
  /-- Columns are asked of the same inspector. -/
  inspector : r.inspector = r'.inspector
  /-- The settings are the same. -/
  settings : r.settings = r'.settings
  /-- The same schema is stored, if there is one. -/
  schema : r.schemaOf? recordType = r'.schemaOf? recordType

namespace AgreesOn

/-- A registry agrees with itself. -/
theorem refl (recordType : Value) (r : Registry) : AgreesOn recordType r r :=
  ⟨rfl, rfl, rfl⟩

/-- Agreement goes both ways. -/
theorem symm (h : AgreesOn recordType r r') : AgreesOn recordType r' r :=
  ⟨h.inspector.symm, h.settings.symm, h.schema.symm⟩

/-- Two registries that agree with a third agree. -/
theorem trans {r'' : Registry} (h : AgreesOn recordType r r') (h' : AgreesOn recordType r' r'') :
    AgreesOn recordType r r'' :=
  ⟨h.inspector.trans h'.inspector, h.settings.trans h'.settings, h.schema.trans h'.schema⟩

/-- Registries that agree on a record type agree on all its forms. -/
theorem congr (h : AgreesOn recordType r r') (hkey : Value.isSameKey other recordType = true) :
    AgreesOn other r r' := by
  refine ⟨h.inspector, h.settings, ?_⟩
  rw [schemaOf?_congr hkey, h.schema, schemaOf?_congr hkey]

/-- The look-ups behind all questions about a record type are the same. -/
theorem find? (h : AgreesOn recordType r r') (hkey : recordType.unhashable? = none) :
    r.find? recordType = r'.find? recordType := by
  have hschema := h.schema
  simpa only [schemaOf?, hkey, Option.isNone_none, if_true] using hschema

/-- The schema of the record type is given or refused alike. -/
theorem get (h : AgreesOn recordType r r') : r.get recordType = r'.get recordType := by
  unfold Registry.get checkKey
  cases hkey : recordType.unhashable? with
  | some kind => rfl
  | none => rw [h.find? hkey, h.inspector]

/-- The record type is contained in both or in neither. -/
theorem contains (h : AgreesOn recordType r r') :
    r.contains recordType = r'.contains recordType := by
  unfold Registry.contains checkKey
  cases hkey : recordType.unhashable? with
  | some kind => rfl
  | none => rw [h.find? hkey]

/-- A query for the record type is read alike. -/
theorem prepare (h : AgreesOn q.recordType r r') : r.prepare q = r'.prepare q := by
  unfold Registry.prepare
  rw [h.get]

/-- A query for the record type is answered and reported alike. -/
theorem compile (h : AgreesOn q.recordType r r') :
    (r.compile q).answer = (r'.compile q).answer ∧
      (r.compile q).events = (r'.compile q).events := by
  unfold Registry.compile
  rw [h.prepare]
  cases r'.prepare q <;> exact ⟨rfl, rfl⟩

/-- The schema that a declaration makes is the same. -/
theorem build (h : AgreesOn recordType r r') (d : Declaration) :
    r.build recordType d = r'.build recordType d := by
  rw [← build_of_empty, h.inspector, h.settings, build_of_empty]

/-- The record type is registered alike, and what is then held of it is the same again. -/
theorem register (h : AgreesOn recordType r r') (d : Declaration) :
    (r.register recordType d).answer = (r'.register recordType d).answer ∧
      (r.register recordType d).events = (r'.register recordType d).events ∧
      AgreesOn recordType (r.register recordType d).state (r'.register recordType d).state := by
  unfold Registry.register checkKey
  cases hkey : recordType.unhashable? with
  | some kind => exact ⟨rfl, rfl, h⟩
  | none =>
    rw [h.find? hkey]
    cases r'.find? recordType with
    | none =>
      simp only [registerNew, h.build d]
      cases r'.build recordType d with
      | error e => exact ⟨rfl, rfl, h⟩
      | ok x =>
        refine ⟨rfl, rfl, h.inspector, h.settings, ?_⟩
        rw [schemaOf?_store hkey, schemaOf?_store hkey, h.schema]
    | some x =>
      -- Whether this is the same declaration depends on the stored schema and on the settings.
      have hfinder : r.finderOf d = r'.finderOf d := by rw [finderOf, h.settings, finderOf]
      simp only [registerAgain, hfinder, h.settings]
      cases x.declaredBy (r'.finderOf d) d with
      | error m => exact ⟨rfl, rfl, h⟩
      | ok same => cases same with
        | true => exact ⟨rfl, rfl, h⟩
        | false => cases r'.settings.strict.isTrue with
          | true => exact ⟨rfl, rfl, h⟩
          | false => exact ⟨rfl, rfl, h⟩

end AgreesOn

/-- Registering a record type leaves what is held of others as it is. -/
theorem agreesOn_register (hother : Value.isSameKey other recordType = false) (r : Registry)
    (d : Declaration) : AgreesOn recordType r (r.register other d).state := by
  rcases r.register_cases other d with ⟨e, h⟩ | ⟨x, events, -, h⟩ | ⟨x, hkey, -, -, h⟩
  · rw [h]
    exact .refl recordType r
  · rw [h]
    exact .refl recordType r
  · -- What is stored is not found under a key that is not the same.
    rw [h]
    refine ⟨rfl, rfl, ?_⟩
    rw [schemaOf?_store hkey, hother]
    simp

end Registry

namespace Session

variable {s t : Session} {op : Operation} {recordType : Value}

/-- A run with what each operation came to. -/
def transcript (s : Session) : List Operation → List Report
  | [] => []
  | op :: ops => ⟨op, (s.step op).answer, (s.step op).events⟩ :: (s.step op).state.transcript ops

/-- The part of a run, or of what it came to, that asks the registry about one record type. -/
def transcriptOf (s : Session) (recordType : Value) (ops : List Operation) : List Report :=
  (s.transcript ops).filter fun report => report.operation.concerns recordType

/-- What it means that record types do not interfere in the runs of a session. -/
structure KeepsApart (s : Session) : Prop where
  /-- The operations on a record type come to the same where all others are deleted from the run. -/
  deleted : ∀ recordType ops,
    s.transcriptOf recordType ops = s.transcript (ops.filter fun op => op.concerns recordType)
  /-- They come to the same however they are interleaved with the operations on other types. -/
  interleaved : ∀ ops others : List Operation,
    (∀ recordType, (ops.filter fun op => op.concerns recordType) =
      others.filter fun op => op.concerns recordType) →
    ∀ recordType, s.transcriptOf recordType ops = s.transcriptOf recordType others

/-- An operation on a record type comes to the same in two sessions whose registries agree on the
type, and they agree on it afterwards. -/
theorem step_of_concerns (h : s.registry.AgreesOn recordType t.registry)
    (hop : op.concerns recordType = true) :
    (s.step op).answer = (t.step op).answer ∧ (s.step op).events = (t.step op).events ∧
      (s.step op).state.registry.AgreesOn recordType (t.step op).state.registry := by
  cases op with
  | register other d =>
    have hother := h.congr hop
    obtain ⟨hanswer, hevents, hstate⟩ := hother.register d
    refine ⟨congrArg (Except.map Answer.schema) hanswer, hevents, ?_⟩
    -- The operation names another form of the type, and the registries agree on all forms.
    exact hstate.congr (Value.isSameKey_symm hop)
  | contains other =>
    exact ⟨congrArg (Except.map Answer.truth) (h.congr hop).contains, rfl, h⟩
  | get other => exact ⟨congrArg (Except.map Answer.schema) (h.congr hop).get, rfl, h⟩
  | requestNames other =>
    have hnames : s.registry.requestNames other = t.registry.requestNames other := by
      unfold Registry.requestNames
      rw [(h.congr hop).get]
    exact ⟨congrArg (Except.map Answer.names) hnames, rfl, h⟩
  | compile i =>
    have hstate : (s.step (.compile i)).state.registry.AgreesOn recordType
        (t.step (.compile i)).state.registry := by
      rw [step_registry, step_registry]
      exact h
    rcases i.query_cases with ⟨name, hrefused⟩ | ⟨q, hquery, htype, -⟩
    · refine ⟨?_, ?_, hstate⟩ <;> simp only [step, hrefused, Outcome.look]
    · have hon : s.registry.AgreesOn q.recordType t.registry := by
        rw [htype]
        exact h.congr hop
      obtain ⟨hanswer, hevents⟩ := hon.compile
      refine ⟨?_, ?_, hstate⟩
      · simp only [step, hquery, Outcome.map, hanswer]
      · simp only [step, hquery, Outcome.map, hevents]
  | search i => cases hop
  | call name other named => cases hop

/-- An operation that does not concern a record type leaves what is held of it as it is. -/
theorem agreesOn_step (s : Session) (hop : op.concerns recordType = false) :
    s.registry.AgreesOn recordType (s.step op).state.registry := by
  rw [step_registry]
  cases op with
  | register other d => exact Registry.agreesOn_register hop s.registry d
  | _ => exact .refl recordType s.registry

/-- A run whose first operation concerns a record type begins with what it comes to. -/
theorem transcriptOf_cons_of_concerns (s : Session) (hop : op.concerns recordType = true)
    (ops : List Operation) :
    s.transcriptOf recordType (op :: ops) =
      ⟨op, (s.step op).answer, (s.step op).events⟩ ::
        (s.step op).state.transcriptOf recordType ops :=
  List.filter_cons_of_pos hop

/-- An operation at the start that does not concern a record type is passed over. -/
theorem transcriptOf_cons_of_not_concerns (s : Session) (hop : op.concerns recordType = false)
    (ops : List Operation) :
    s.transcriptOf recordType (op :: ops) = (s.step op).state.transcriptOf recordType ops :=
  List.filter_cons_of_neg (by simp [hop])

/-- What the operations on a record type come to in a run is what they come to without the others,
in a session whose registry agrees on the type. -/
theorem transcriptOf_eq (h : s.registry.AgreesOn recordType t.registry) (ops : List Operation) :
    s.transcriptOf recordType ops = t.transcript (ops.filter fun op => op.concerns recordType) := by
  induction ops generalizing s t with
  | nil => rfl
  | cons op ops ih =>
    cases hop : op.concerns recordType with
    | true =>
      obtain ⟨hanswer, hevents, hstate⟩ := step_of_concerns h hop
      rw [transcriptOf_cons_of_concerns s hop, List.filter_cons_of_pos hop, transcript, hanswer,
        hevents, ih hstate]
    | false =>
      -- The operation is deleted, and what it did to the session does not show on this type.
      have hskip : (s.step op).state.registry.AgreesOn recordType t.registry :=
        (s.agreesOn_step hop).symm.trans h
      have hdelete : ¬op.concerns recordType = true := by simp [hop]
      rw [transcriptOf_cons_of_not_concerns s hop, List.filter_cons_of_neg hdelete, ih hskip]

/-- In every session, operations on one record type do not interfere with those on another. -/
theorem keepsApart (s : Session) : s.KeepsApart := by
  have hdeleted (recordType : Value) (ops : List Operation) :
      s.transcriptOf recordType ops =
        s.transcript (ops.filter fun op => op.concerns recordType) :=
    transcriptOf_eq (.refl recordType s.registry) ops
  refine ⟨hdeleted, fun ops others hsame recordType => ?_⟩
  rw [hdeleted, hdeleted, hsame recordType]

/-- A session over two record types of one name, of which the first has no age. -/
def namesakes : Session :=
  ⟨.empty (.listed [(.recordType "Person#1", ["name"]), (.recordType "Person#2", ["name", "age"])])
    .usual, .inMemory []⟩

/-- Declares the age of a record type. -/
def declareAge (label : String) : Operation :=
  .register (.recordType label) ⟨[("age", .text "opened_scope")], .null, .null, [], .null⟩

/-- Asks for an age. -/
def askAge (label : String) : Operation :=
  .compile ⟨.recordType label, some (.map [(.text "age_from", .int 20)]), []⟩

/-- The two types are asked in turns. -/
def inTurns : List Operation :=
  [declareAge "Person#1", declareAge "Person#2", askAge "Person#1", askAge "Person#2"]

/-- The second type is asked before the first. -/
def oneByOne : List Operation :=
  [declareAge "Person#2", askAge "Person#2", declareAge "Person#1", askAge "Person#1"]

/-- Types of one name are answered in turns as they are one by one. -/
theorem namesakes_keepApart :
    (Value.recordType "Person#1").recordTypeName = (Value.recordType "Person#2").recordTypeName ∧
      (∀ recordType, (inTurns.filter fun op => op.concerns recordType) =
        oneByOne.filter fun op => op.concerns recordType) ∧
      namesakes.transcriptOf (.recordType "Person#1") inTurns =
        namesakes.transcriptOf (.recordType "Person#1") oneByOne ∧
      namesakes.transcriptOf (.recordType "Person#2") inTurns =
        namesakes.transcriptOf (.recordType "Person#2") oneByOne := by
  have hname : (Value.recordType "Person#1").recordTypeName =
      (Value.recordType "Person#2").recordTypeName := by
    simp [Value.recordTypeName, Value.typeName]
  have hsame (recordType : Value) : (inTurns.filter fun op => op.concerns recordType) =
      oneByOne.filter fun op => op.concerns recordType := by
    have hdeclare (label : String) : (declareAge label).concerns recordType =
        Value.isSameKey (.recordType label) recordType := rfl
    have hask (label : String) : (askAge label).concerns recordType =
        Value.isSameKey (.recordType label) recordType := rfl
    have hneither : Value.isSameKey (.recordType "Person#1") recordType = false ∨
        Value.isSameKey (.recordType "Person#2") recordType = false := by
      by_contra h
      rw [not_or, Bool.not_eq_false, Bool.not_eq_false] at h
      have hboth := Value.same_trans (Value.isSameKey_iff.1 h.1).2
        (Value.same_symm (Value.isSameKey_iff.1 h.2).2)
      simp [Value.same, Value.sameAtom] at hboth
    simp only [inTurns, oneByOne, List.filter_cons, List.filter_nil, hdeclare, hask]
    rcases hneither with h | h <;> simp [h]
  exact ⟨hname, hsame, (keepsApart namesakes).interleaved _ _ hsame _,
    (keepsApart namesakes).interleaved _ _ hsame _⟩

end Session

end Searchable
