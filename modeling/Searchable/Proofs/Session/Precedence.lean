import Searchable.Proofs.Session.Dispatch
import Searchable.Proofs.Session.Secrecy
import Searchable.Proofs.Session.Stages

/-!
# The order in which a search is refused

A search reaches a stage if no stage before it refuses (`Session.Reaches`), and then the steps of
these stages have all been done. `Session.search_rejectsInOrder` says that the first stage that
refuses decides, that a search that is refused at any stage makes no call, and which events tell how
far it came. The order of the answers is judged twice, as it is read and as its tokens are joined,
and compiling is reported in between.
-/

namespace Searchable

namespace Schema

variable {x : Schema} {criteria additional : Value}

/-- Criteria that do not compile alone do not compile with a further condition either. -/
theorem compile_of_alone_error {e : Failure} (h : x.compileAlone criteria = .error e) :
    ((Criteria.ofValue criteria).mapError .misuse >>= fun c => x.compile c additional) =
      .error e := by
  unfold compileAlone at h
  cases hc : (Criteria.ofValue criteria).mapError Failure.misuse with
  | error f =>
    rw [hc] at h
    exact h
  | ok c =>
    rw [hc] at h
    change x.compile c .null = .error e at h
    show x.compile c additional = .error e
    unfold compile at h ⊢
    cases hg : x.criteriaGroups c with
    | error f =>
      rw [hg] at h
      exact h
    | ok groups =>
      rw [hg] at h
      cases h

/-- Criteria that compile alone compile with each further condition that can be read. -/
theorem compile_of_alone_ok {d : Condition} (h : x.compileAlone criteria = .ok d)
    (additional : Value) :
    ∃ groups : List (List Clause),
      ((Criteria.ofValue criteria).mapError .misuse >>= fun c => x.compile c additional) =
        ((Condition.ofAdditional additional).mapError .misuse).map
          (Condition.ofClauses groups.flatten) := by
  obtain ⟨c, hc, hd⟩ := bind_eq_ok_iff.1 h
  obtain ⟨groups, hgroups, -⟩ := bind_eq_ok_iff.1 hd
  refine ⟨groups, ?_⟩
  rw [hc]
  show x.compile c additional = _
  rw [compile, hgroups]
  cases Condition.ofAdditional additional <;> rfl

end Schema

namespace Session

variable {s : Session} {q : Query} {stage : Stage} {x : Schema} {e : Failure}

/-- Whether no stage before the given one refuses a search. -/
def Reaches (s : Session) (q : Query) (stage : Stage) : Prop :=
  ∀ earlier e, earlier.number < stage.number → ¬s.Refuses q earlier e

/-- That a search is refused by the first stage that has a reason to, and what is seen of it. -/
structure RejectsInOrder (s : Session) (q : Query) : Prop where
  /-- The answer is the failure of the first stage that refuses, whatever is wrong later. -/
  first : ∀ stage e, s.Refuses q stage e → s.Reaches q stage → (s.search q).answer = .error e
  /-- A search that any stage refuses makes no call, and is not reported to have been dispatched. -/
  unsent : ∀ stage e, s.Refuses q stage e →
    (s.search q).state = s ∧ ∀ name, .dispatched name ∉ (s.search q).events
  /-- A search is reported to have been compiled if no stage refuses that is before the joining of
  the order, and only then. -/
  compiled_iff : (∃ name empty params, .compiled name empty params ∈ (s.search q).events) ↔
    s.Reaches q .joining
  /-- A search that reaches its finder, and finds it, is dispatched to it. -/
  sent : ∀ x service, s.Reaches q .finder → s.registry.get q.recordType = .ok x →
    s.store.finder x.finder = .ok service →
    ∃ empty params, (s.search q).events =
      [.compiled x.recordType empty params, .dispatched x.finder]

/-- What the step of an earlier stage does not fail it does. -/
theorem Reaches.exists_ok {α ε : Type} {o : Except ε α} (hreach : s.Reaches q stage)
    (earlier : Stage) (hearlier : earlier.number < stage.number)
    (h : ∀ f, o = .error f → ∃ e, s.Refuses q earlier e) : ∃ a, o = .ok a := by
  cases o with
  | ok a => exact ⟨a, rfl⟩
  | error f =>
    obtain ⟨e, he⟩ := h f rfl
    exact absurd he (hreach earlier e hearlier)

/-- A search that reaches a stage reaches those before it. -/
theorem Reaches.of_le (hreach : s.Reaches q stage) (earlier : Stage)
    (h : earlier.number ≤ stage.number) : s.Reaches q earlier := fun first e hfirst =>
  hreach first e (Nat.lt_of_lt_of_le hfirst h)

/-- The options of a search that reaches its schema are in order. -/
theorem Reaches.options (hreach : s.Reaches q .schema) : checkOptions q.options = .ok () := by
  have ⟨_, h⟩ := hreach.exists_ok .options (by decide) fun f hf =>
    ⟨f, checkOptions_eq_error_iff.1 hf⟩
  exact h

/-- A search that reaches its criteria has a schema. -/
theorem Reaches.schema (hreach : s.Reaches q .criteria) :
    ∃ x, s.registry.get q.recordType = .ok x :=
  hreach.exists_ok .schema (by decide) fun f hf => ⟨f, Registry.get_eq_error_iff.1 hf⟩

/-- The criteria of a search that reaches its further condition compile. -/
theorem Reaches.criteria (hreach : s.Reaches q .additional)
    (hx : s.registry.get q.recordType = .ok x) : ∃ d, x.compileAlone q.criteria = .ok d :=
  hreach.exists_ok .criteria (by decide) fun f hf => ⟨f, .criteria x f hx hf⟩

/-- The further condition of a search that reaches its order is one. -/
theorem Reaches.additional (hreach : s.Reaches q .order) :
    ∃ further, Condition.ofAdditional q.additional = .ok further :=
  hreach.exists_ok .additional (by decide) fun m hm =>
    ⟨.misuse m, Condition.ofAdditional_eq_error_iff.1 hm⟩

/-- The order of a search that reaches its joining has tokens. -/
theorem Reaches.order (hreach : s.Reaches q .joining) (x : Schema) :
    ∃ tokens, x.orderFor q.order = .ok tokens :=
  hreach.exists_ok .order (by decide) fun m hm =>
    ⟨.misuse m, Schema.orderFor_eq_error_iff.1 hm⟩

/-- The order of a search that reaches its finder can be joined. -/
theorem Reaches.joining (hreach : s.Reaches q .finder) {tokens : List Value}
    (hx : s.registry.get q.recordType = .ok x) (htokens : x.orderFor q.order = .ok tokens) :
    ∃ order, Order.joined tokens = .ok order :=
  hreach.exists_ok .joining (by decide) fun m hm =>
    ⟨.misuse m, (Order.joined_eq_error_iff_refuses hx htokens).1 hm⟩

/-- A query whose options are in order and whose record type has a schema is read with the schema.
-/
theorem prepare_of_get (hreach : s.Reaches q .criteria)
    (hx : s.registry.get q.recordType = .ok x) :
    s.registry.prepare q =
      (do
        let d ← (Criteria.ofValue q.criteria).mapError .misuse >>= fun c =>
          x.compile c q.additional
        let tokens ← (x.orderFor q.order).mapError .misuse
        return ⟨x, d, tokens⟩) := by
  rw [Registry.prepare, (hreach.of_le .schema (by decide)).options, hx]
  cases Criteria.ofValue q.criteria <;> rfl

/-- A query whose criteria compile is read with what is further given. -/
theorem prepare_of_criteria (hreach : s.Reaches q .additional) :
    ∃ (x : Schema) (groups : List (List Clause)), s.registry.get q.recordType = .ok x ∧
      s.registry.prepare q =
        (do
          let further ← (Condition.ofAdditional q.additional).mapError .misuse
          let tokens ← (x.orderFor q.order).mapError .misuse
          return ⟨x, .ofClauses groups.flatten further, tokens⟩) := by
  have hcriteria := hreach.of_le .criteria (by decide)
  obtain ⟨x, hx⟩ := hcriteria.schema
  obtain ⟨d, hd⟩ := hreach.criteria hx
  obtain ⟨groups, hgroups⟩ := Schema.compile_of_alone_ok hd q.additional
  refine ⟨x, groups, hx, ?_⟩
  rw [prepare_of_get hcriteria hx, hgroups]
  cases Condition.ofAdditional q.additional <;> rfl

/-- A query is not read if a stage before the joining is the first that refuses it. -/
theorem prepare_of_refuses (h : s.Refuses q stage e) (hreach : s.Reaches q stage)
    (hstage : stage.number < Stage.joining.number) : s.registry.prepare q = .error e := by
  -- The steps of the stages before are done, and that of the stage itself fails.
  cases stage with
  | options =>
    rw [Registry.prepare, checkOptions_eq_error_iff.2 h]
    rfl
  | schema =>
    rw [Registry.prepare, hreach.options, Registry.get_eq_error_iff.2 h]
    rfl
  | criteria =>
    cases h with
    | criteria x e hx h =>
      rw [prepare_of_get hreach hx, Schema.compile_of_alone_error h]
      rfl
  | additional =>
    obtain ⟨x, groups, -, hprepare⟩ := prepare_of_criteria hreach
    obtain ⟨m, rfl⟩ : ∃ m, e = .misuse m := by cases h <;> exact ⟨_, rfl⟩
    rw [hprepare, Condition.ofAdditional_eq_error_iff.2 h]
    rfl
  | order =>
    obtain ⟨x, groups, -, hprepare⟩ := prepare_of_criteria (hreach.of_le .additional (by decide))
    obtain ⟨further, hfurther⟩ := hreach.additional
    obtain ⟨m, rfl⟩ : ∃ m, e = .misuse m := by cases h; exact ⟨_, rfl⟩
    rw [hprepare, hfurther, Schema.orderFor_eq_error_iff.2 h]
    rfl
  | joining | finder => exact absurd hstage (by decide)

/-- A query that no stage before the joining refuses is read, with the schema of its record type and
the tokens of the order that holds. -/
theorem exists_prepare (hreach : s.Reaches q .joining) :
    ∃ p, s.registry.prepare q = .ok p ∧ s.registry.get q.recordType = .ok p.schema ∧
      p.schema.orderFor q.order = .ok p.order := by
  obtain ⟨x, groups, hx, hprepare⟩ := prepare_of_criteria (hreach.of_le .additional (by decide))
  obtain ⟨further, hfurther⟩ := (hreach.of_le .order (by decide)).additional
  obtain ⟨tokens, htokens⟩ := hreach.order x
  refine ⟨⟨x, .ofClauses groups.flatten further, tokens⟩, ?_, hx, htokens⟩
  rw [hprepare, hfurther, htokens]
  rfl

/-- Where any stage refuses, one is the first that does. -/
theorem Refuses.exists_first (h : s.Refuses q stage e) :
    ∃ first f, first.number ≤ stage.number ∧ s.Refuses q first f ∧ s.Reaches q first := by
  -- The induction is on the place of the stage: one that is not reached has a refusal before it.
  induction hnumber : stage.number using Nat.strong_induction_on generalizing stage e with
  | _ number ih =>
    by_cases hreach : s.Reaches q stage
    · exact ⟨stage, e, Nat.le_of_eq hnumber, h, hreach⟩
    · obtain ⟨earlier, f, hearlier, hf⟩ : ∃ earlier f, earlier.number < stage.number ∧
          s.Refuses q earlier f := by
        simpa only [Reaches, not_forall, not_not, exists_prop] using hreach
      obtain ⟨first, g, hfirst, hg⟩ := ih earlier.number (hnumber ▸ hearlier) hf rfl
      exact ⟨first, g, hnumber ▸ Nat.le_of_lt (Nat.lt_of_le_of_lt hfirst hearlier), hg⟩

/-- What compiling reports is no dispatching. -/
theorem dispatched_not_mem_compile (r : Registry) (q : Query) (name : Value) :
    .dispatched name ∉ (r.compile q).events := by
  unfold Registry.compile
  split
  · exact List.not_mem_nil
  · intro h
    cases List.mem_singleton.1 h

/-- A query does not compile if a stage before the finder is the first that refuses it. -/
theorem answer_compile_of_refuses (h : s.Refuses q stage e) (hreach : s.Reaches q stage)
    (hstage : stage ≠ .finder) : (s.registry.compile q).answer = .error e := by
  by_cases hread : stage.number < Stage.joining.number
  · -- Nothing is read, and there is nothing to join.
    simp only [Registry.compile, prepare_of_refuses h hreach hread, Outcome.look]
  · obtain rfl : stage = .joining := by
      cases stage with
      | joining => rfl
      | finder => exact absurd rfl hstage
      | _ => exact absurd (by decide) hread
    obtain ⟨p, hp, hx, htokens⟩ := exists_prepare hreach
    obtain ⟨m, rfl⟩ : ∃ m, e = .misuse m := by cases h; exact ⟨_, rfl⟩
    have hjoined : Order.joined p.order = .error m :=
      (Order.joined_eq_error_iff_refuses hx htokens).2 h
    simp only [Registry.compile, hp, Prepared.request, hjoined]
    rfl

/-- A query compiles if no stage before the finder refuses it. -/
theorem exists_compile (hreach : s.Reaches q .finder) :
    ∃ r, (s.registry.compile q).answer = .ok r := by
  obtain ⟨p, hp, hx, htokens⟩ := exists_prepare (hreach.of_le .joining (by decide))
  obtain ⟨order, horder⟩ := hreach.joining hx htokens
  refine ⟨⟨p.conditions, order, p.schema.eagerLoad, q.options⟩, ?_⟩
  simp only [Registry.compile, hp, Prepared.request, horder]
  rfl

/-- A search fails as the first stage does that refuses it, and makes no call. -/
theorem search_of_first (h : s.Refuses q stage e) (hreach : s.Reaches q stage) :
    s.search q = ⟨s, .error e, (s.registry.compile q).events⟩ := by
  by_cases hstage : stage = .finder
  · subst hstage
    obtain ⟨r, hr⟩ := exists_compile hreach
    cases h with
    | missing x name hx hname h =>
      rw [search_of_compiled hr, dispatch_of_get hx, Store.finder_of_service? hname h]
      simp only [Outcome.look, List.append_nil]
  · exact search_of_refused (answer_compile_of_refuses h hreach hstage)

/-- In every session, a search is refused by the first stage that has a reason to, and before it
makes a call. -/
theorem search_rejectsInOrder (s : Session) (q : Query) : s.RejectsInOrder q := by
  constructor
  case first =>
    intro stage e h hreach
    rw [search_of_first h hreach]
  case unsent =>
    intro stage e h
    obtain ⟨first, f, -, hf, hreach⟩ := h.exists_first
    rw [search_of_first hf hreach]
    exact ⟨rfl, dispatched_not_mem_compile s.registry q⟩
  case compiled_iff =>
    constructor
    · -- What a stage before the joining refuses is not read, and so nothing is reported.
      rintro ⟨name, empty, params, hmem⟩ earlier e hearlier h
      obtain ⟨first, f, hfirst, hf, hreach⟩ := h.exists_first
      have hunread : s.registry.prepare q = .error f :=
        prepare_of_refuses hf hreach (Nat.lt_of_le_of_lt hfirst hearlier)
      rw [events_search_of_unread hunread] at hmem
      cases hmem
    · intro hreach
      obtain ⟨p, hp, -, -⟩ := exists_prepare hreach
      rw [events_search_of_read hp]
      exact ⟨_, _, _, List.mem_cons_self⟩
  case sent =>
    intro x service hreach hx hservice
    obtain ⟨p, hp, hschema, htokens⟩ := exists_prepare (hreach.of_le .joining (by decide))
    obtain ⟨order, horder⟩ := hreach.joining hschema htokens
    obtain rfl : p.schema = x := Except.ok.inj (hschema.symm.trans hx)
    have hfinder : s.finderFor q.recordType = .ok (p.schema.finder, service) :=
      bind_eq_ok_iff.2 ⟨p.schema, hx, bind_eq_ok_iff.2 ⟨service, hservice, rfl⟩⟩
    have hsent : s.dispatchEvents q.recordType = [.dispatched p.schema.finder] := by
      rw [dispatchEvents, hfinder]
    rw [events_search_of_read hp, horder]
    exact ⟨_, _, congrArg (List.cons p.event) hsent⟩

/-- A session with a registry of persons. -/
def withPersons : Session :=
  ⟨.persons, .inMemory []⟩

/-- A record type that is not registered is not always reported as such, for what it is named by may
have no text. -/
theorem nameless_unreported :
    withPersons.registry.contains (.error 0 Schema.wordless) = .ok false ∧
      (withPersons.search ⟨.error 0 Schema.wordless, .null, .null, .null, []⟩).answer =
        .error (.misuse (.unwritable (.key "tuple"))) :=
  ⟨rfl, rfl⟩

end Session

end Searchable
