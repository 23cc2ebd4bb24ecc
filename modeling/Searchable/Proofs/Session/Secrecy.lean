import Searchable.Proofs.Schema.Likeness
import Searchable.Proofs.Schema.RequestNames
import Searchable.Proofs.Session.Redeclaration

/-!
# Events say nothing of what is searched for

Two searches that differ in their criteria and further conditions only, and in these by values of
one shape, report the same events (`Session.events_search_congr`). What compiling reports is how
many parameters there are and whether the condition always holds, which the shape decides, and what
dispatching reports is the finder, which the schema names.

Shape is blankness, on both sides where a range is given as a pair. One thing more shows, which is
whether the value for a partial match has a text at all, since a search for one that has none fails
before anything is reported (`Session.wordless_shows`).
-/

namespace Searchable

/-- Whether two queries differ by values of one shape only, in a registry. -/
structure Query.Alike (r : Registry) (q p : Query) : Prop where
  /-- They are about the same record type. -/
  recordType : q.recordType = p.recordType
  /-- Their criteria are alike for the schema of the record type, if there is one. -/
  criteria : ∀ s, r.get q.recordType = .ok s → s.CriteriaAlike q.criteria p.criteria
  /-- They ask for the same order. -/
  order : q.order = p.order
  /-- Their further conditions are alike. -/
  additional : FurtherAlike q.additional p.additional
  /-- They have the same options. -/
  options : q.options = p.options

/-- Values that stand for alike criteria are read alike. -/
theorem Schema.CriteriaAlike.ofValue {s : Schema} {v w : Value} (h : s.CriteriaAlike v w) :
    Together (List.Forall₂ fun e f => e.1 = f.1 ∧ s.AlikeUnder e.1 e.2 f.2)
      (Criteria.ofValue v) (Criteria.ofValue w) := by
  rcases h with rfl | ⟨es, fs, rfl, rfl, h⟩
  · refine Together.refl _ fun es => ?_
    exact List.forall₂_same.2 fun e _ => ⟨rfl, .refl s e.1 e.2⟩
  · cases h with
    | nil => exact .done .nil
    | cons hef hrest => exact .done (.cons hef hrest)

/-- Queries that are alike are read alike: what compiling them reports is the same, and so is the
order. -/
theorem Registry.prepare_together {r : Registry} {q p : Query}
    (hmaps : ∀ s, r.get q.recordType = .ok s → s.HasMaps) (h : q.Alike r p) :
    Together (fun a b => a.event = b.event ∧ a.order = b.order) (r.prepare q) (r.prepare p) := by
  unfold prepare
  rw [← h.options, ← h.recordType, ← h.order]
  -- The options and the record type are judged before the criteria are read.
  refine .bind_same fun _ _ => .bind_same fun s hs => ?_
  refine (h.criteria s hs).ofValue.mapError.bind fun es fs hes => ?_
  refine (s.compile_together (hmaps s hs).strategies hes h.additional).bind fun c d hcd => ?_
  refine .bind_same fun tokens _ => .done ⟨?_, rfl⟩
  rw [Prepared.event, Prepared.event, hcd.empty, hcd.count]

namespace Session

variable {s : Session} {q p : Query} {recordType : Value}

/-- What dispatching to the finder of a record type reports. -/
def dispatchEvents (s : Session) (recordType : Value) : List Event :=
  match s.finderFor recordType with
  | .error _ => []
  | .ok (name, _) => [.dispatched name]

/-- A store reports nothing. -/
theorem events_call (store : Store) (refusal : Product → Misuse) (service : Service)
    (recordType : Value) (named : Entries Value) :
    (store.call refusal service recordType named).events = [] := by
  unfold Store.call
  split
  · rfl
  · split
    · unfold Store.find
      split <;> rfl
    · split <;> rfl

/-- What dispatching reports does not depend on the request. -/
theorem events_dispatch (r : Request) :
    (s.dispatch recordType r).events = s.dispatchEvents recordType := by
  unfold dispatch dispatchEvents
  cases s.finderFor recordType with
  | error e => rfl
  | ok found => exact congrArg (List.cons _) (events_call _ _ _ _ _)

/-- A search of what cannot be read reports nothing. -/
theorem events_search_of_unread {e : Failure} (h : s.registry.prepare q = .error e) :
    (s.search q).events = [] := by
  simp only [search, Registry.compile, h, Outcome.look]

/-- A search of what can be read reports so, and what dispatching does if there is a request. -/
theorem events_search_of_read {a : Prepared} (h : s.registry.prepare q = .ok a) :
    (s.search q).events = a.event ::
      match Order.joined a.order with
      | .error _ => []
      | .ok _ => s.dispatchEvents q.recordType := by
  simp only [search, Registry.compile, h, Prepared.request]
  -- That a token is no text is noticed after the event of compiling, and before any other.
  cases Order.joined a.order with
  | error m => rfl
  | ok order => exact congrArg (List.cons _) (events_dispatch _)

/-- Searches that differ by values of one shape only report the same events. The schemas that were
made of declarations with one value for each name are such as is asked here (`hasMaps_of_run`). -/
theorem events_search_congr (hmaps : ∀ x, s.registry.get q.recordType = .ok x → x.HasMaps)
    (h : q.Alike s.registry p) : (s.search q).events = (s.search p).events := by
  have htogether := Registry.prepare_together hmaps h
  generalize hq : s.registry.prepare q = a? at htogether
  generalize hp : s.registry.prepare p = b? at htogether
  cases htogether with
  | failed e f => rw [events_search_of_unread hq, events_search_of_unread hp]
  | done hab => rw [events_search_of_read hq, events_search_of_read hp, hab.1, hab.2, h.recordType]

/-- Asks for persons of a name. -/
def askName (name : Value) : Query :=
  ⟨.recordType "Person", .map [(.text "name", name)], .null, .null, []⟩

/-- Asks for persons of a name and an age, and for more. -/
def askPerson (name age more : Value) : Query :=
  ⟨.recordType "Person", .map [(.text "name", name), (.text "age", age)], .null, more, []⟩

/-- Asks for a man of a name who is of an age. -/
def askTom : Query :=
  askPerson (.text "Tom") (.list [.int 20, .null]) (.list [.text "sex = ?", .text "m"])

/-- Asks for another person in the same places. -/
def askOther : Query :=
  askPerson (.int 7) (.tuple [.int 3, .text " "]) (.list [.text "area > ?", .int 5])

/-- Searches for different persons report the same. -/
theorem persons_events :
    (∀ x, ofPersons.registry.get askTom.recordType = .ok x → x.HasMaps) ∧
      askTom.Alike ofPersons.registry askOther ∧
      (ofPersons.search askTom).events = (ofPersons.search askOther).events := by
  have hmaps : ∀ x, ofPersons.registry.get askTom.recordType = .ok x → x.HasMaps := fun x hx =>
    hasMaps_of_run (Registry.schemaOf?_empty _ _ _) hasMaps_inTexts (Registry.get_eq_ok_iff.1 hx)
  have h : askTom.Alike ofPersons.registry askOther := by
    constructor
    case recordType => rfl
    case order => rfl
    case options => rfl
    case additional => exact .inr ⟨"sex = ?", "area > ?", _, _, rfl, rfl, by decide, rfl⟩
    case criteria =>
      intro s hs
      obtain rfl := Except.ok.inj (get_ofPersons.symm.trans hs)
      refine .inr ⟨_, _, rfl, rfl, .cons ⟨rfl, rfl, ?_⟩ (.cons ⟨rfl, rfl, ?_⟩ .nil)⟩
      · -- Both names have a text.
        intro column strategy hcolumn _ hstrategy
        obtain rfl := Option.some.inj hcolumn
        obtain rfl := Option.some.inj hstrategy
        exact ⟨fun h => (by cases h), fun _ => rfl⟩
      · -- Both ages have a lower bound only.
        intro column strategy hcolumn _ hstrategy
        obtain rfl := Option.some.inj hcolumn
        obtain rfl := Option.some.inj hstrategy
        exact ⟨fun _ => .some ⟨rfl, rfl⟩, fun h => (by cases h)⟩
  exact ⟨hmaps, h, events_search_congr hmaps h⟩

/-- Whether a value has a text shows, though neither of the two is blank and no range is searched.
-/
theorem wordless_shows :
    (Value.text "Tom").isBlank = false ∧ (Value.error 0 Schema.wordless).isBlank = false ∧
      Strategy.matchPartial.isRange = false ∧
      (ofPersons.search (askName (.text "Tom"))).events =
        [.compiled "Person" false 1, .dispatched (.text usualFinder)] ∧
      (ofPersons.search (askName (.error 0 Schema.wordless))).events = [] := by
  have htom : ofPersons.registry.prepare (askName (.text "Tom")) =
      .ok ⟨byAge "Person" [("name", .matchPartial), ("age", .closedRange)],
        ⟨"((name) LIKE ?)", [.text "%Tom%"]⟩, [.text "-age"]⟩ := by
    simp only [Registry.prepare, askName, get_ofPersons]
    rfl
  have hwordless : ofPersons.registry.prepare (askName (.error 0 Schema.wordless)) =
      .error (.misuse (.unwritable (.key "tuple"))) := by
    simp only [Registry.prepare, askName, get_ofPersons]
    rfl
  refine ⟨by decide, rfl, rfl, ?_, events_search_of_unread hwordless⟩
  rw [events_search_of_read htom]
  simp only [dispatchEvents, finderFor, askName, get_ofPersons]
  rfl

end Session

end Searchable
