import Searchable.Proofs.Registry.Repetition
import Searchable.Proofs.Session.History

/-!
# Record types that are declared again

In every session that is reached from an empty registry, a record type that is registered may be
declared again. `Redeclares` says what this comes to, in terms of what the same declaration would
come to in a fresh registry: it is a repetition if the schema that it would make there matches the
stored one, and a difference if that schema does not match or the declaration would be refused
there. `redeclares` proves it, with the stored schema traced back to the declaration that made it.

The name of the record type is left out of the comparison. Where a type is declared again in another
form than the first, the schemas bear different names and still the declaration is a repetition
(`otherForm_repeated`).
-/

namespace Searchable

/-- The registry without the schemas that it holds. -/
def Registry.emptied (r : Registry) : Registry :=
  .empty r.inspector r.settings

/-- Whether the declaration of a registration has a value for each name at most once. -/
def Operation.HasMaps : Operation → Prop
  | .register _ d => d.HasMaps
  | _ => True

namespace Session

variable {s : Session} {recordType : Value} {ops : List Operation}

/-- A registration that is accepted in a run is one of its operations and is one of the record
type. -/
theorem mem_of_accepted {a : Registration} (h : a ∈ s.accepted recordType ops) :
    .register a.recordType a.declaration ∈ ops ∧
      Value.isSameKey a.recordType recordType = true := by
  induction ops generalizing s with
  | nil => cases h
  | cons op ops ih =>
    rw [accepted, List.mem_append] at h
    rcases h with h | h
    · have hop : s.accepted? recordType op = some a := Option.mem_toList.1 h
      unfold accepted? at hop
      split at hop
      · split at hop
        · rename_i hsame
          obtain rfl := Option.some.inj hop
          exact ⟨List.mem_cons_self .., hsame⟩
        · cases hop
      · cases hop
    · obtain ⟨hmem, hsame⟩ := ih h
      exact ⟨List.mem_cons_of_mem _ hmem, hsame⟩

/-- What declaring a registered record type again comes to after a run, given what the declaration
comes to in a registry without schemas. -/
structure Redeclares (start : Session) (ops : List Operation) (recordType : Value) (x : Schema)
    (d : Declaration) : Prop where
  /-- The registry stays as it is. -/
  kept : ((start.run ops).registry.register recordType d).state = (start.run ops).registry
  /-- A declaration that would make a matching schema is a repetition. -/
  repeated : ∀ y,
    (start.registry.emptied.register recordType d).answer = .ok y → x.Matches y →
    (start.run ops).registry.register recordType d = (start.run ops).registry.repetition x
  /-- One that would make another schema is a difference. -/
  changed : ∀ y,
    (start.registry.emptied.register recordType d).answer = .ok y → ¬x.Matches y →
    (start.run ops).registry.register recordType d = (start.run ops).registry.difference x d
  /-- One that would be refused though the record type has a name is a difference too, whatever it
  would be refused for, if the type is given in the form in which it was first registered or what
  the inspector knows does not depend on the form. -/
  refused : ∀ a later name e, start.accepted recordType ops = a :: later →
    a.recordType = recordType ∨ start.registry.inspector.RespectsKeys →
    start.registry.inspector.typeName recordType = .ok name →
    (start.registry.emptied.register recordType d).answer = .error e →
    (start.run ops).registry.register recordType d = (start.run ops).registry.difference x d
  /-- In the form in which the record type was first registered, it would be given the same name. -/
  named : ∀ a later y, start.accepted recordType ops = a :: later → a.recordType = recordType →
    (start.registry.emptied.register recordType d).answer = .ok y → x.recordType = y.recordType

/-- A schema that a record type has after a run is what the first accepted registration built, which
is one of the operations. -/
theorem exists_accepted {x : Schema} (hnone : s.registry.schemaOf? recordType = none)
    (hx : (s.run ops).registry.schemaOf? recordType = some x) :
    ∃ a later, s.accepted recordType ops = a :: later ∧
      s.registry.build a.recordType a.declaration = .ok x ∧
      .register a.recordType a.declaration ∈ ops ∧
      Value.isSameKey a.recordType recordType = true := by
  have hrun := schemaOf?_run_of_none hnone ops
  cases hacc : s.accepted recordType ops with
  | nil =>
    rw [hacc] at hrun
    cases hrun.symm.trans hx
  | cons a later =>
    rw [hacc] at hrun
    obtain ⟨hb, hlast, -⟩ := hrun
    obtain rfl := Option.some.inj (hlast.symm.trans hx)
    obtain ⟨hmem, hsame⟩ := mem_of_accepted (hacc ▸ List.mem_cons_self ..)
    exact ⟨a, later, rfl, hb, hmem, hsame⟩

/-- A schema that a record type has after a run has a value for each name at most once, if the
declarations of the run do. -/
theorem hasMaps_of_run {x : Schema} (hnone : s.registry.schemaOf? recordType = none)
    (hops : ∀ op ∈ ops, op.HasMaps) (hx : (s.run ops).registry.schemaOf? recordType = some x) :
    x.HasMaps := by
  obtain ⟨a, later, -, hb, hmem, -⟩ := exists_accepted hnone hx
  exact Registry.hasMaps_of_build (hops _ hmem) hb

/-- Declaring a registered record type again is a repetition exactly when the declaration would make
a matching schema, and else a difference, whether or not it would make a schema. -/
theorem redeclares (i : Inspector) (settings : SearchSettings) (store : Store)
    (ops : List Operation) (recordType : Value) (x : Schema) (d : Declaration) (tokens : List Value)
    (hops : ∀ op ∈ ops, op.HasMaps) (hd : d.HasMaps)
    (htokens : Order.tokens d.order = .ok tokens)
    (hx : (Session.run ⟨.empty i settings, store⟩ ops).registry.get recordType = .ok x) :
    Redeclares ⟨.empty i settings, store⟩ ops recordType x d := by
  generalize hstart : (⟨.empty i settings, store⟩ : Session) = start at hx ⊢
  have hempty : start.registry.schemaOf? recordType = none := by
    rw [← hstart]
    exact Registry.schemaOf?_empty i settings recordType
  have hx : (start.run ops).registry.schemaOf? recordType = some x := Registry.get_eq_ok_iff.1 hx
  have hmaps : x.HasMaps := hasMaps_of_run hempty hops hx
  obtain ⟨a, later, hacc, hb, -, hsame⟩ := exists_accepted hempty hx
  obtain ⟨⟨-, hkey⟩, -⟩ := Value.isSameKey_iff.1 hsame
  -- What the declaration comes to in a fresh registry is what is built of it after the run.
  have hfresh : (start.registry.emptied.register recordType d).answer =
      (start.run ops).registry.build recordType d := by
    rw [Registry.answer_register_of_new hkey rfl, Registry.emptied, Registry.build_of_empty,
      build_run]
  constructor
  case kept =>
    by_cases hsaid : x.SaidBy ((start.run ops).registry.finderOf d) tokens d
    · rw [Registry.register_of_saidBy hx hmaps hd htokens hsaid]
      rfl
    · rw [Registry.register_of_not_saidBy hx hmaps hd htokens hsaid, Registry.state_difference]
  case repeated =>
    intro y hy hmatches
    rw [hfresh] at hy
    exact Registry.register_of_saidBy hx hmaps hd htokens
      ((Schema.saidBy_iff_matches htokens hy).2 hmatches)
  case changed =>
    intro y hy hdiffers
    rw [hfresh] at hy
    exact Registry.register_of_not_saidBy hx hmaps hd htokens
      (mt (Schema.saidBy_iff_matches htokens hy).1 hdiffers)
  case refused =>
    intro first others name e hfirst hform hname he
    obtain ⟨rfl, -⟩ := List.cons.inj (hacc.symm.trans hfirst)
    rw [hfresh] at he
    rw [← run_inspector start ops] at hform hname
    refine Registry.register_of_not_saidBy hx hmaps hd htokens fun hsaid => ?_
    -- The stored schema is sound for the record type in the form in which it is given.
    have hsound : x.IsSoundFor (start.run ops).registry.inspector recordType := by
      have hbuilt : x.IsSoundFor (start.run ops).registry.inspector a.recordType := by
        rw [run_inspector]
        exact Registry.isSoundFor_of_build hb
      rcases hform with rfl | hrespects
      · exact hbuilt
      · exact hbuilt.congr fun column => hrespects _ _ column true hsame
    -- A declaration that says what the schema says would not be refused.
    obtain ⟨y, hy⟩ := Registry.exists_build_of_saidBy hname hd htokens hsound hsaid
    cases he.symm.trans hy
  case named =>
    intro first others y hfirst hform hy
    rw [hfresh, build_run] at hy
    obtain ⟨rfl, -⟩ := List.cons.inj (hacc.symm.trans hfirst)
    have hold := Registry.typeName_of_build hb
    have hnew := Registry.typeName_of_build hy
    rw [hform] at hold
    exact Except.ok.inj (hold.symm.trans hnew)

section Worded

variable {recordType form : Value} {d : Declaration} {x : Schema}

/-- A session over one record type, whose registry is strict. -/
def guardedOver (recordType : Value) : Session :=
  ⟨.empty (.listed [(recordType, ["name", "age"])])
    ⟨.text SearchSettings.usualFamily, .info, .bool true, .text usualFinder, .bool true⟩,
    .inMemory []⟩

/-- A schema is built for each form of the record type, and is named by the form. -/
theorem build_guardedOver {name : String} {ss : Entries Strategy} {tokens : List Value}
    (hsame : Value.isSameKey recordType form = true) (hname : form.recordTypeName = .ok name)
    (hread : List.Forall₂ (fun e f => e.1 = f.1 ∧ Strategy.ofValue (.text e.1) e.2 = .ok f.2)
      d.strategies ss)
    (hcolumns : ∀ column ∈ d.strategies.names, column ∈ ["name", "age"])
    (htokens : Order.tokens d.order = .ok tokens) :
    (guardedOver recordType).registry.build form d =
      .ok ⟨name, ss, tokens, d.eagerLoad, d.aliases, d.finderOr (.text usualFinder)⟩ := by
  have hknown : ∀ column ∈ ["name", "age"],
      (guardedOver recordType).registry.inspector.hasColumn form column = .ok true := by
    intro column hc
    obtain ⟨⟨-, hkey⟩, hvalue⟩ := Value.isSameKey_iff.1 hsame
    have hfound : Value.find? form [(recordType, ["name", "age"])] = some ["name", "age"] := by
      rw [Value.find?, if_pos hvalue]
    simp only [guardedOver, Registry.empty, Inspector.listed, hkey, hfound, Option.getD_some,
      List.contains_iff_mem.2 hc]
  refine (Registry.build_eq_ok_iff htokens).2 ⟨name, ss, hname,
    Registry.acceptColumns_eq_ok_iff.2 ⟨hread, fun e he => ?_⟩, rfl⟩
  have hcolumn : e.1 ∈ ["name", "age"] := hcolumns _ (List.mem_map_of_mem he)
  exact Registry.checkColumn_of_known (.inr (hknown _ hcolumn))

/-- The schema that is built for the record type is found for each form of it. -/
theorem get_guardedOver (hsame : Value.isSameKey recordType form = true)
    (hx : (guardedOver recordType).registry.build recordType d = .ok x) :
    ((guardedOver recordType).run [.register recordType d]).registry.get form = .ok x := by
  obtain ⟨⟨hkey, -⟩, -⟩ := Value.isSameKey_iff.1 hsame
  have hstored : ((guardedOver recordType).run [.register recordType d]).registry =
      (guardedOver recordType).registry.store recordType x := by
    have hnew : (guardedOver recordType).registry.find? recordType = none := rfl
    simp only [run, List.foldl, step, Outcome.map, Registry.register, Registry.checkKey, hkey,
      hnew, Registry.registerNew, hx]
  rw [Registry.get_eq_ok_iff, hstored, Registry.schemaOf?_store hkey, if_pos hsame]
  rw [guardedOver, Registry.schemaOf?_empty, Option.none_or]

/-- A declaration in texts. -/
def inTexts : Declaration :=
  ⟨[("name", .text "match_partial"), ("age", .text "closed_scope")], .text "-age", .null, [], .null⟩

/-- The same declaration in other words. -/
def inOtherWords : Declaration :=
  ⟨[("age", .strategy .closedRange), ("name", .strategy .matchPartial)], .list [.text "-age"],
    .null, [], .text usualFinder⟩

/-- A declaration of a column that the record type has not. -/
def ofUnknown : Declaration :=
  ⟨[("years", .text "closed_scope")], .null, .null, [], .null⟩

/-- The schema of a record type with the given columns, which is searched by age backwards. -/
def byAge (name : String) (strategies : Entries Strategy) : Schema :=
  ⟨name, strategies, [.text "-age"], .null, [], .text usualFinder⟩

/-- Schemas of this kind match if their columns do. -/
theorem byAge_matches {name other : String} {ss ts : Entries Strategy}
    (h : ∀ column, ss.get? column = ts.get? column) :
    (byAge name ss).Matches (byAge other ts) where
  strategies := h
  order := .cons (Value.same_text_iff.2 rfl) .nil
  eagerLoad := by simp [byAge, Value.equal, Value.isUndefined, Value.same, Value.sameAtom]
  aliases _ := .none
  finder := by rw [Value.equal, Bool.and_eq_true]; exact ⟨rfl, Value.same_text_iff.2 rfl⟩

/-- The session in which a person was declared in texts. -/
def ofPersons : Session :=
  (guardedOver (.recordType "Person")).run [.register (.recordType "Person") inTexts]

/-- A person is named so. -/
theorem typeName_person :
    (guardedOver (.recordType "Person")).registry.inspector.typeName (.recordType "Person") =
      .ok "Person" := by
  simp [guardedOver, Registry.empty, Inspector.listed, Value.recordTypeName, Value.typeName]

/-- A person is a key. -/
theorem isSameKey_person :
    Value.isSameKey (.recordType "Person") (.recordType "Person") = true := by
  simp [Value.isSameKey, Value.unhashable?, Value.same, Value.sameAtom]

/-- The schema of a person in that session. -/
theorem get_ofPersons : ofPersons.registry.get (.recordType "Person") =
    .ok (byAge "Person" [("name", .matchPartial), ("age", .closedRange)]) :=
  get_guardedOver isSameKey_person (build_guardedOver isSameKey_person typeName_person
    (.cons ⟨rfl, rfl⟩ (.cons ⟨rfl, rfl⟩ .nil)) (by decide) rfl)

/-- The declaration in texts has one value for each name. -/
theorem hasMaps_inTexts :
    ∀ op ∈ [Operation.register (.recordType "Person") inTexts], op.HasMaps := by
  intro op hop
  obtain rfl := List.mem_singleton.1 hop
  exact ⟨by decide, by decide⟩

/-- In a strict registry a declaration in other words is a repetition, and one that would be refused
is a difference. -/
theorem persons_redeclared :
    (∀ op ∈ [Operation.register (.recordType "Person") inTexts], op.HasMaps) ∧
      inOtherWords.HasMaps ∧ Order.tokens inOtherWords.order = .ok [.text "-age"] ∧
      ofUnknown.HasMaps ∧ Order.tokens ofUnknown.order = .ok [] ∧
      ∃ x, ofPersons.registry.get (.recordType "Person") = .ok x ∧
        ofPersons.registry.register (.recordType "Person") inOtherWords =
          ofPersons.registry.repetition x ∧
        ofPersons.registry.register (.recordType "Person") ofUnknown =
          ofPersons.registry.difference x ofUnknown := by
  have hother : inOtherWords.HasMaps := ⟨by decide, by decide⟩
  have hunknown : ofUnknown.HasMaps := ⟨by decide, by decide⟩
  -- What is built of the other words differs from the schema in the order of the columns only.
  have hagain : (guardedOver (.recordType "Person")).registry.build (.recordType "Person")
      inOtherWords = .ok (byAge "Person" [("age", .closedRange), ("name", .matchPartial)]) :=
    build_guardedOver isSameKey_person typeName_person
      (.cons ⟨rfl, rfl⟩ (.cons ⟨rfl, rfl⟩ .nil)) (by decide) rfl
  have hmatches : (byAge "Person" [("name", .matchPartial), ("age", .closedRange)]).Matches
      (byAge "Person" [("age", .closedRange), ("name", .matchPartial)]) := by
    refine byAge_matches fun column => ?_
    simp only [Entries.get?]
    split_ifs with hn ha
    · exact absurd (hn.trans ha.symm) (by decide)
    all_goals rfl
  have hrefused : (guardedOver (.recordType "Person")).registry.build (.recordType "Person")
      ofUnknown = .error (.ofCause (.unknownColumn (.text "years") (.text "Person"))) := by
    have hmissing : (guardedOver (.recordType "Person")).registry.inspector.hasColumn
        (.recordType "Person") "years" = .ok false := by
      simp [guardedOver, Registry.empty, Inspector.listed, Value.find?, Value.same,
        Value.sameAtom, Value.unhashable?]
    simp only [Registry.build, typeName_person, Registry.acceptColumns, ofUnknown,
      Registry.checkColumn, hmissing]
    rfl
  refine ⟨hasMaps_inTexts, hother, rfl, hunknown, rfl, _, get_ofPersons, ?_, ?_⟩
  · exact (redeclares _ _ _ _ _ _ inOtherWords _ hasMaps_inTexts hother rfl
      get_ofPersons).repeated _ ((Registry.answer_register_of_new rfl rfl).trans hagain) hmatches
  · obtain ⟨a, later, hfirst, -⟩ := exists_accepted (Registry.schemaOf?_empty _ _ _)
      (Registry.get_eq_ok_iff.1 get_ofPersons)
    exact (redeclares _ _ _ _ _ _ ofUnknown _ hasMaps_inTexts hunknown rfl
      get_ofPersons).refused a later _ _ hfirst (.inr (Inspector.listed_respectsKeys _))
      typeName_person ((Registry.answer_register_of_new rfl rfl).trans hrefused)

/-- A declaration is a repetition also where the schema that it would make is named otherwise, as
the record type is given in another form. -/
theorem otherForm_repeated : ¬∀ x y,
    ((guardedOver (.int 1)).run [.register (.int 1) inTexts]).registry.get (.bool true) = .ok x →
    ((guardedOver (.int 1)).registry.register (.bool true) inTexts).answer = .ok y →
    (((guardedOver (.int 1)).run [.register (.int 1) inTexts]).registry.register
        (.bool true) inTexts =
      ((guardedOver (.int 1)).run [.register (.int 1) inTexts]).registry.repetition x ↔
        x.recordType = y.recordType ∧ x.Matches y) := by
  have hsame : Value.isSameKey (.int 1) (.bool true) = true := by
    simp [Value.isSameKey, Value.unhashable?, Value.same, Value.sameAtom, Value.number?]
  have hself : Value.isSameKey (.int 1) (.int 1) = true := by
    simp [Value.isSameKey, Value.unhashable?, Value.same, Value.sameAtom, Value.number?]
  have hmaps : inTexts.HasMaps := ⟨by decide, by decide⟩
  have hfirst : (guardedOver (.int 1)).registry.build (.int 1) inTexts =
      .ok (byAge "1" [("name", .matchPartial), ("age", .closedRange)]) :=
    build_guardedOver hself rfl (.cons ⟨rfl, rfl⟩ (.cons ⟨rfl, rfl⟩ .nil)) (by decide) rfl
  have hagain : (guardedOver (.int 1)).registry.build (.bool true) inTexts =
      .ok (byAge "True" [("name", .matchPartial), ("age", .closedRange)]) :=
    build_guardedOver hsame rfl (.cons ⟨rfl, rfl⟩ (.cons ⟨rfl, rfl⟩ .nil)) (by decide) rfl
  have hx := get_guardedOver hsame hfirst
  intro h
  have hiff := h _ _ hx ((Registry.answer_register_of_new rfl rfl).trans hagain)
  -- The declaration says what the stored schema says, for the name is not compared.
  have hrepeated := Registry.register_of_saidBy (Registry.get_eq_ok_iff.1 hx)
    (Registry.hasMaps_of_build hmaps hfirst) hmaps rfl ((Schema.saidBy_iff_matches rfl
      ((build_run _ _ _ _).trans hagain)).2 (byAge_matches fun _ => rfl))
  exact absurd (hiff.1 hrepeated).1 (by decide)

end Worded

end Session

end Searchable
