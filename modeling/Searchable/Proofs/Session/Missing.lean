import Searchable.Proofs.Session.Precedence
import Searchable.Proofs.Session.Redeclaration

/-!
# Searches whose finder is missing

A schema may name a finder that its store does not have, or something that the store holds and that
cannot be called. A search that compiles fails then, and nothing is called or reported
(`Session.search_reportsMissing`), whatever was done before. The failure names the finder and the
store, with one exception: a store in memory shows its last call under a name, and looking that up
before the first call fails in another way (`Session.unasked_unreported`). This is the one place
where what was called before shows in the answer.
-/

namespace Searchable

/-- What a store in memory holds is none of its operations. -/
theorem StoreKind.service?_of_holding {name : String}
    (h : name ∈ StoreKind.memory.holdings.map Prod.fst) :
    StoreKind.memory.service? name = none := by
  have hnone : ∀ name ∈ StoreKind.memory.holdings.map Prod.fst,
      StoreKind.memory.service? name = none := by decide
  exact hnone name h

namespace Store

variable {s : Store}

/-- Looking up the last call of a store in memory as a finder fails before there is one. -/
theorem finder_of_unasked (h : s.IsInMemory) {v : Value} (hv : v.text? = some lastCallName)
    (hcalls : s.calls = []) : s.finder v = .error (.misuse .noCalls) := by
  have hservice : s.service? lastCallName = .error .noCalls := by
    rw [service?, if_pos ⟨h.kind, rfl⟩, lastCall, hcalls]
    rfl
  rw [finder, hv]
  simp only [hservice]
  rfl

end Store

namespace Session

variable {s : Session} {i : Inquiry} {r : Request} {x : Schema} {name : String}

/-- How a search ends in whose schema the finder is the name of nothing that can be called. -/
structure ReportsMissing (s : Session) (i : Inquiry) (finder : Value) : Prop where
  /-- It leaves the session as it is, so that no call is kept. -/
  state : (s.step (.search i)).state = s
  /-- It reports what compiling does. -/
  events : (s.step (.search i)).events = (s.step (.compile i)).events
  /-- That is no dispatching. -/
  undispatched : ∀ v, .dispatched v ∉ (s.step (.search i)).events
  /-- The failure names the finder and the store, unless the finder is the name of the last call and
  there was none. -/
  reported : (finder.text? = some Store.lastCallName → s.store.calls ≠ []) →
    (s.step (.search i)).answer =
      .error (.fault (.ofCause (.finderNotFound finder (.text StoreKind.memory.name))))
  /-- In that case it says that there is no call. -/
  unreported : finder.text? = some Store.lastCallName → s.store.calls = [] →
    (s.step (.search i)).answer = .error (.misuse .noCalls)

/-- A search that compiles fails as the look-up of its finder does, and comes to nothing else. -/
theorem step_search_of_unfound {e : Failure}
    (hr : (s.step (.compile i)).answer = .ok (.request r))
    (hx : s.registry.get i.recordType = .ok x) (he : s.store.finder x.finder = .error e) :
    s.step (.search i) = ⟨s, .error e, (s.step (.compile i)).events⟩ := by
  rcases i.query_cases with ⟨name, hrefused⟩ | ⟨q, hquery, htype, -⟩
  · -- What is no query does not compile.
    simp only [step, hrefused] at hr
    cases hr
  · have hcompiled : (s.registry.compile q).answer = .ok r := by
      simp only [step, hquery, Outcome.map] at hr
      obtain ⟨_, hanswer, hsame⟩ := map_eq_ok_iff.1 hr
      cases hsame
      exact hanswer
    have hdispatch : s.dispatch i.recordType r = .look s (.error e) := by
      rw [dispatch_of_get hx, he]
    simp only [step, hquery, search_of_compiled hcompiled, htype, hdispatch]
    simp only [Outcome.map, Outcome.look, List.append_nil, id]
    rfl

/-- What compiling an inquiry reports is no dispatching. -/
theorem dispatched_not_mem_step_compile (s : Session) (i : Inquiry) (v : Value) :
    .dispatched v ∉ (s.step (.compile i)).events := by
  simp only [step]
  split
  · -- What is no query reports nothing.
    exact List.not_mem_nil
  · exact dispatched_not_mem_compile s.registry _ v

/-- In every session that is reached with a store in memory, a search that compiles fails if its
finder is the name of nothing that can be called, makes no call, and reports nothing more. -/
theorem search_reportsMissing (inspector : Inspector) (settings : SearchSettings)
    (records : List Value) (ops : List Operation)
    (hs : s = (⟨.empty inspector settings, .inMemory records⟩ : Session).run ops)
    (hr : (s.step (.compile i)).answer = .ok (.request r))
    (hx : s.registry.get i.recordType = .ok x) (hname : x.finder.text? = some name)
    (hmissing : StoreKind.memory.service? name = none) : s.ReportsMissing i x.finder := by
  have hstart : (Store.inMemory records).IsInMemory := ⟨rfl, rfl⟩
  have hmemory : s.store.IsInMemory := hs ▸ isInMemory_run hstart ops
  -- Whether there was a call decides how the look-up fails, and only under one name.
  have hfound (hlast : x.finder.text? = some Store.lastCallName → s.store.calls ≠ []) :
      s.store.finder x.finder =
        .error (.fault (.ofCause (.finderNotFound x.finder (.text StoreKind.memory.name)))) :=
    Store.finder_of_missing hmemory hname hmissing fun h => hlast (h ▸ hname)
  have hunasked (hlast : x.finder.text? = some Store.lastCallName) (hcalls : s.store.calls = []) :
      s.store.finder x.finder = .error (.misuse .noCalls) :=
    Store.finder_of_unasked hmemory hlast hcalls
  have hfails : ∃ e, s.store.finder x.finder = .error e := by
    by_cases hlast : x.finder.text? = some Store.lastCallName → s.store.calls ≠ []
    · exact ⟨_, hfound hlast⟩
    · obtain ⟨hlast, hcalls⟩ := Classical.not_imp.1 hlast
      exact ⟨_, hunasked hlast (not_not.1 hcalls)⟩
  obtain ⟨e, he⟩ := hfails
  have hstep := step_search_of_unfound hr hx he
  constructor
  case state => rw [hstep]
  case events => rw [hstep]
  case undispatched =>
    rw [hstep]
    exact dispatched_not_mem_step_compile s i
  case reported =>
    intro hlast
    rw [step_search_of_unfound hr hx (hfound hlast)]
  case unreported =>
    intro hlast hcalls
    rw [step_search_of_unfound hr hx (hunasked hlast hcalls)]

/-- Declares a person with a finder. -/
def namingFinder (name : String) : Declaration :=
  ⟨[("name", .text "match_full")], .null, .null, [], .text name⟩

/-- The session in which a person was declared with a finder. -/
def ofFinder (name : String) : Session :=
  (guardedOver (.recordType "Person")).run [.register (.recordType "Person") (namingFinder name)]

/-- Asks for all persons. -/
def askAll : Inquiry :=
  ⟨.recordType "Person", none, []⟩

/-- The schema of a person in that session names the finder. -/
theorem get_ofFinder (name : String) (hname : name ≠ "") :
    (ofFinder name).registry.get (.recordType "Person") =
      .ok ⟨"Person", [("name", .matchFull)], [], .null, [], .text name⟩ := by
  have hfinder : (namingFinder name).finderOr (.text usualFinder) = .text name :=
    if_pos (bne_iff_ne.2 hname)
  have hread : List.Forall₂
      (fun e f => e.1 = f.1 ∧ Strategy.ofValue (.text e.1) e.2 = .ok f.2)
      (namingFinder name).strategies [("name", .matchFull)] := .cons ⟨rfl, rfl⟩ .nil
  have hcolumns : ∀ column ∈ ["name"], column ∈ ["name", "age"] := by decide
  have hbuild := build_guardedOver (d := namingFinder name) isSameKey_person typeName_person hread
    hcolumns rfl
  rw [hfinder] at hbuild
  exact get_guardedOver isSameKey_person hbuild

/-- Asking for all persons compiles there. -/
theorem compile_ofFinder (name : String) (hname : name ≠ "") :
    ((ofFinder name).step (.compile askAll)).answer = .ok (.request ⟨none, none, .null, []⟩) := by
  have hquery : askAll.query "compile" = .ok ⟨.recordType "Person", .null, .null, .null, []⟩ := rfl
  simp only [step, hquery, Registry.compile, Registry.prepare, get_ofFinder name hname]
  rfl

/-- The records of a store are no finder. -/
theorem records_reportsMissing :
    ((ofFinder "results").step (.compile askAll)).answer =
        .ok (.request ⟨none, none, .null, []⟩) ∧
      StoreKind.memory.service? "results" = none ∧
      (ofFinder "results").ReportsMissing askAll (.text "results") := by
  have hcompiled := compile_ofFinder "results" (by decide)
  have hmissing : StoreKind.memory.service? "results" = none :=
    StoreKind.service?_of_holding (by decide)
  exact ⟨hcompiled, hmissing, search_reportsMissing _ _ _ _ rfl hcompiled
    (get_ofFinder _ (by decide)) rfl hmissing⟩

/-- The last call is no finder either, but before the first call that is not what a search says. -/
theorem unasked_unreported :
    ((ofFinder "last_call").step (.compile askAll)).answer =
        .ok (.request ⟨none, none, .null, []⟩) ∧
      StoreKind.memory.service? "last_call" = none ∧
      ((ofFinder "last_call").step (.search askAll)).answer = .error (.misuse .noCalls) ∧
      ((ofFinder "last_call").step (.search askAll)).answer ≠
        .error (.fault (.ofCause
          (.finderNotFound (.text "last_call") (.text StoreKind.memory.name)))) := by
  have hcompiled := compile_ofFinder "last_call" (by decide)
  have hunasked : (ofFinder "last_call").store.finder (.text "last_call") =
      .error (.misuse .noCalls) :=
    Store.finder_of_unasked (isInMemory_run ⟨rfl, rfl⟩ _) rfl rfl
  have hstep := step_search_of_unfound hcompiled (get_ofFinder _ (by decide)) hunasked
  refine ⟨hcompiled, StoreKind.service?_of_holding (by decide), by rw [hstep], ?_⟩
  rw [hstep]
  intro h
  cases h

end Session

end Searchable
