import Searchable.Proofs.Session.History
import Searchable.Proofs.Session.InMemory

/-!
# Searching is compiling and one call

`FollowsCompile` says what a search comes to, in terms of what compiling the same query comes to: a
query that does not compile makes no call, and one that compiles makes the one call that its request
describes, or none if the finder is missing. `search_followsCompile` proves it in every session that
is reached with a store in memory.
-/

namespace Searchable

namespace Session

variable {s : Session}

/-- What a search comes to that makes one call, of the finder of a name, and has an answer. The
request of the query is what the call carries, and the event names the finder as it is declared. -/
def answered (s : Session) (i : Inquiry) (r : Request) (finder : Value) (name : String)
    (found : Value) : Outcome Session Answer :=
  ⟨{ s with store := { s.store with
      calls := s.store.calls ++ [.plain (.text name) i.recordType r.arguments] } },
    .ok (.found found), (s.step (.compile i)).events ++ [.dispatched finder]⟩

/-- What a search comes to, given what compiling the same query comes to. -/
structure FollowsCompile (s : Session) (i : Inquiry) : Prop where
  /-- Compiling leaves the session as it is, so that it makes no call. -/
  compile_state : (s.step (.compile i)).state = s
  /-- A search leaves the registry as it is. -/
  search_registry : (s.step (.search i)).state.registry = s.registry
  /-- What is not the writing of a query is refused by both, each by its own name. -/
  unfit : ∀ m, i.query "search" = .error m → ∃ name,
    m = .repeatedArgument "SearchService.search" name ∧
      s.step (.search i) = .look s (.error (.misuse m)) ∧
      s.step (.compile i) =
        .look s (.error (.misuse (.repeatedArgument "SearchService.compile" name)))
  /-- A query that does not compile is refused in the same way, and no call is made. -/
  failed : ∀ q e, i.query "search" = .ok q → (s.step (.compile i)).answer = .error e →
    s.step (.search i) = ⟨s, .error e, (s.step (.compile i)).events⟩
  /-- A query that compiles has a schema. -/
  registered : ∀ r, (s.step (.compile i)).answer = .ok (.request r) →
    ∃ x, s.registry.get i.recordType = .ok x
  /-- Where the schema names the finder of all records, the answer is the list of the records. -/
  found_all : ∀ r x, (s.step (.compile i)).answer = .ok (.request r) →
    s.registry.get i.recordType = .ok x → x.finder.text? = some "find_all" →
    s.step (.search i) = s.answered i r x.finder "find_all" (.list s.store.records)
  /-- Where it names the finder of the first, the answer is the first record, or nothing where there
  is none. -/
  found_first : ∀ r x, (s.step (.compile i)).answer = .ok (.request r) →
    s.registry.get i.recordType = .ok x → x.finder.text? = some "find_first" →
    s.step (.search i) =
      s.answered i r x.finder "find_first" (s.store.records.head?.getD .null)
  /-- Where it names no operation of the store, none is made. The name of the last call is one of
  these names only once there was a call. -/
  missing : ∀ r x name, (s.step (.compile i)).answer = .ok (.request r) →
    s.registry.get i.recordType = .ok x → x.finder.text? = some name →
    StoreKind.memory.service? name = none →
    (name = Store.lastCallName → s.store.calls ≠ []) →
    s.step (.search i) =
      ⟨s, .error (.fault (.ofCause (.finderNotFound x.finder (.text StoreKind.memory.name)))),
        (s.step (.compile i)).events⟩

section Search

variable {q : Query} {e : Failure} {r : Request}

/-- A query that does not compile is not dispatched. -/
theorem search_of_refused (h : (s.registry.compile q).answer = .error e) :
    s.search q = ⟨s, .error e, (s.registry.compile q).events⟩ := by
  unfold search
  simp only [h]

/-- A query that compiles is dispatched. -/
theorem search_of_compiled (h : (s.registry.compile q).answer = .ok r) :
    s.search q = ⟨(s.dispatch q.recordType r).state, (s.dispatch q.recordType r).answer,
      (s.registry.compile q).events ++ (s.dispatch q.recordType r).events⟩ := by
  unfold search
  simp only [h]

/-- A request goes to the finder that the schema names. -/
theorem dispatch_of_get {recordType : Value} {x : Schema}
    (h : s.registry.get recordType = .ok x) :
    s.dispatch recordType r =
      match s.store.finder x.finder with
      | .error e => .look s (.error e)
      | .ok service =>
        ⟨⟨s.registry, (s.store.call Product.notAwaited service recordType r.named).state⟩,
          (s.store.call Product.notAwaited service recordType r.named).answer,
          .dispatched x.finder ::
            (s.store.call Product.notAwaited service recordType r.named).events⟩ := by
  have hfinder : s.finderFor recordType = (s.store.finder x.finder).map (x.finder, ·) := by
    rw [finderFor, h]
    rfl
  rw [dispatch, hfinder]
  cases s.store.finder x.finder <;> rfl

end Search

section Follows

variable {i : Inquiry}

/-- Where an inquiry is refused as it is written, searching follows compiling. -/
theorem followsCompile_of_unfit {name : String}
    (hrefused : ∀ operation,
      i.query operation = .error (.repeatedArgument ("SearchService." ++ operation) name)) :
    FollowsCompile s i := by
  have hcompile : s.step (.compile i) =
      .look s (.error (.misuse (.repeatedArgument "SearchService.compile" name))) := by
    simp only [step, hrefused]
    rfl
  have hsearch : s.step (.search i) =
      .look s (.error (.misuse (.repeatedArgument "SearchService.search" name))) := by
    simp only [step, hrefused]
    rfl
  have hnone (r : Request) : (s.step (.compile i)).answer ≠ .ok (.request r) := by
    rw [hcompile]
    intro h
    cases h
  constructor
  case compile_state => rw [hcompile, Outcome.look]
  case search_registry => exact step_registry s (.search i)
  case unfit =>
    intro m hm
    obtain rfl := Except.error.inj (hm.symm.trans (hrefused "search"))
    exact ⟨name, rfl, hsearch, hcompile⟩
  case failed =>
    intro q e hq
    rw [hrefused] at hq
    cases hq
  case registered => exact fun r hr => absurd hr (hnone r)
  case found_all => exact fun r _ hr => absurd hr (hnone r)
  case found_first => exact fun r _ hr => absurd hr (hnone r)
  case missing => exact fun r _ _ hr => absurd hr (hnone r)

/-- Where an inquiry is written for a query, searching follows compiling. -/
theorem followsCompile_of_query (hmemory : s.store.IsInMemory) {q : Query}
    (hquery : ∀ operation, i.query operation = .ok q) (htype : q.recordType = i.recordType)
    (htaken : ∀ name ∈ q.options.names, name ∉ [receiver, "record_type", "order"]) :
    FollowsCompile s i := by
  have hcompile : s.step (.compile i) =
      (s.registry.compile q).map (⟨·, s.store⟩) .request := by
    simp only [step, hquery]
  have hsearch : s.step (.search i) = (s.search q).map id .found := by
    simp only [step, hquery]
  have hevents : (s.step (.compile i)).events = (s.registry.compile q).events := by
    rw [hcompile, Outcome.map]
  have hanswer {r : Request} (h : (s.step (.compile i)).answer = .ok (.request r)) :
      (s.registry.compile q).answer = .ok r := by
    rw [hcompile] at h
    obtain ⟨_, hr, he⟩ := map_eq_ok_iff.1 h
    cases he
    exact hr
  have hfound (r : Request) (x : Schema) (f : Finder)
      (hr : (s.step (.compile i)).answer = .ok (.request r))
      (hx : s.registry.get i.recordType = .ok x) (hf : x.finder.text? = some f.name) :
      s.step (.search i) = s.answered i r x.finder f.name (f.select s.store.records) := by
    have hr := hanswer hr
    -- The options reach the finder as options, so that the call fits and keeps all of the request.
    obtain ⟨hreceived, hcommon⟩ := Registry.free_options_of_compile hr htaken
    rw [answered, hsearch, hevents, search_of_compiled hr, htype, dispatch_of_get hx,
      Store.finder_of_name hf]
    simp only [Store.call_find hmemory _ f _ hreceived hcommon]
    rfl
  constructor
  case compile_state => rw [hcompile, Outcome.map, compile_registry]
  case search_registry => exact step_registry s (.search i)
  case unfit =>
    intro m hm
    rw [hquery] at hm
    cases hm
  case failed =>
    intro _ e _ he
    rw [hcompile] at he
    have hfail : (s.registry.compile q).answer = .error e := map_eq_error_iff.1 he
    rw [hsearch, search_of_refused hfail, hevents]
    rfl
  case registered =>
    intro r hr
    rw [← htype]
    exact (Registry.of_compile (hanswer hr)).2.2
  case found_all => exact fun r x hr hx hf => hfound r x .all hr hx hf
  case found_first => exact fun r x hr hx hf => hfound r x .first hr hx hf
  case missing =>
    intro r x name hr hx hname hmissing hlast
    rw [hsearch, hevents, search_of_compiled (hanswer hr), htype, dispatch_of_get hx,
      Store.finder_of_missing hmemory hname hmissing hlast]
    simp only [Outcome.look, List.append_nil]
    rfl

end Follows

/-- In every session that is reached with a store in memory, searching follows compiling. -/
theorem search_followsCompile (inspector : Inspector) (settings : SearchSettings)
    (records : List Value) (ops : List Operation) (i : Inquiry) :
    FollowsCompile ((⟨.empty inspector settings, .inMemory records⟩ : Session).run ops) i := by
  have hstart : (Store.inMemory records).IsInMemory := ⟨rfl, rfl⟩
  have hmemory := isInMemory_run (s := ⟨.empty inspector settings, _⟩) hstart ops
  rcases i.query_cases with ⟨name, hrefused⟩ | ⟨q, hquery, htype, htaken⟩
  · exact followsCompile_of_unfit hrefused
  · exact followsCompile_of_query hmemory hquery htype htaken

end Session

end Searchable
