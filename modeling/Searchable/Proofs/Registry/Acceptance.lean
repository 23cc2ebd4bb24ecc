import Searchable.Proofs.Fault.Showing
import Searchable.Proofs.Registry.Repetition
import Searchable.Proofs.Schema.RequestNames

/-!
# The declarations that are accepted

A registry goes through the columns of a declaration in order, and judges the strategy of each
before the column itself. `Registry.Accepts` says when both are in order, and `Registry.Defect` what
is reported otherwise; one of the two is the case (`Registry.accepts_or_defect`). Since the columns
are gone through one by one, the first defect decides the outcome
(`Registry.acceptColumns_of_defect`), and there is none exactly when all columns are accepted.

`Registry.register_judged` puts this together for a record type without a schema: what is accepted,
what the schema is that is stored and reported, and what is refused and for which column.
-/

namespace Searchable

/-- Whether a value declares a strategy: it is the strategy or its name. -/
inductive Value.Declares : Value → Strategy → Prop where
  /-- A strategy declares itself. -/
  | itself (s : Strategy) : Declares (.strategy s) s
  /-- The name of a strategy declares it. -/
  | name (s : Strategy) : Declares (.text s.name) s

/-- Whether an order is written as one: it is left out, or it is a text or other items. -/
def Value.WritesOrder (v : Value) : Prop :=
  v = .null ∨ v.items?.isSome = true

/-- What is read as a strategy is what declares it. -/
theorem Strategy.ofValue_eq_ok_iff {column v : Value} {s : Strategy} :
    ofValue column v = .ok s ↔ v.Declares s := by
  constructor
  · intro h
    have htext : v.text? = some s.name := text?_of_ofValue h
    cases v with
    | text name =>
      obtain rfl : name = s.name := Option.some.inj htext
      exact .name s
    | strategy other =>
      obtain rfl : other = s := eq_of_name (Option.some.inj htext)
      exact .itself other
    | _ => cases htext
  · intro h
    cases h with
    | itself => rfl
    | name => exact ofValue_of_text? rfl

/-- What declares no strategy is refused, with the column and the value, as far as the value has a
plain form for the message to show. -/
theorem Strategy.ofValue_of_not_declares {column v : Value} (h : ∀ s, ¬v.Declares s) :
    ofValue column v = .error (.showing (.invalidStrategy column v) v.plain) := by
  rw [← Failure.ofCause_eq_showing (c := .invalidStrategy column v) [] rfl]
  cases hread : ofValue column v with
  | ok s => exact absurd (ofValue_eq_ok_iff.1 hread) (h s)
  | error e =>
    unfold ofValue at hread
    split at hread
    · cases hread
    · split at hread
      · cases hread
      · exact hread.symm
    · exact hread.symm

/-- An order fails to be read if it is something and has no items. -/
theorem Order.tokens_eq_error_iff {v : Value} {m : Misuse} :
    tokens v = .error m ↔ v ≠ .null ∧ v.items? = none ∧ m = .notIterable v.kind := by
  constructor
  · intro h
    unfold tokens at h
    split at h
    · cases h
    · split at h
      · cases h
      · split at h
        · cases h
        · obtain rfl := Except.error.inj h
          exact ⟨‹_›, ‹_›, rfl⟩
  · rintro ⟨hgiven, hitems, rfl⟩
    cases v with
    | null => exact absurd rfl hgiven
    | bool | int | float | recordType | model | loader | error => rfl
    | _ => cases hitems

/-- An order that is written as one has tokens. -/
theorem Order.exists_tokens {written : Value} (h : written.WritesOrder) :
    ∃ items, tokens written = .ok items := by
  cases htokens : tokens written with
  | ok items => exact ⟨items, rfl⟩
  | error m =>
    obtain ⟨hgiven, hitems, -⟩ := tokens_eq_error_iff.1 htokens
    rcases h with hnull | hsome
    · exact absurd hnull hgiven
    · rw [hitems] at hsome
      cases hsome

/-- Whether a schema is that of a declaration, given the name of the record type and the finder that
is usual. -/
structure Schema.IsOf (x : Schema) (name : String) (usual : Value) (d : Declaration) : Prop where
  /-- It is named as the record type is. -/
  recordType : x.recordType = name
  /-- It has the declared columns in order, with the strategies that are declared. -/
  strategies : List.Forall₂ (fun e f => e.1 = f.1 ∧ e.2.Declares f.2) d.strategies x.strategies
  /-- Its order consists of the tokens of the one that is written. -/
  order : Order.tokens d.order = .ok x.order
  /-- It loads along what is declared. -/
  eagerLoad : x.eagerLoad = d.eagerLoad
  /-- It has the declared aliases. -/
  aliases : x.aliases = d.aliases
  /-- Its finder is the declared one, or the usual one where none is named. -/
  finder : x.finder = if d.finder.isTrue then d.finder else usual

namespace Registry

variable {r : Registry} {recordType : Value} {d : Declaration} {name : String}
  {aliases : Entries Value}

/-- Whether a declared column is in order: its value declares a strategy, and it is an alias or a
column of the record type. -/
structure Accepts (r : Registry) (recordType : Value) (aliases : Entries Value)
    (e : String × Value) : Prop where
  /-- The value declares a strategy. -/
  strategy : ∃ s, e.2.Declares s
  /-- The column is an alias or a column of the record type. -/
  column : aliases.contains e.1 = true ∨ r.inspector.hasColumn recordType e.1 = .ok true

/-- What is wrong with a declared column of a record type that has the given name, and the failure
that reports it. -/
inductive Defect (r : Registry) (recordType : Value) (name : String) (aliases : Entries Value)
    (e : String × Value) : Failure → Prop where
  /-- The value declares no strategy, whatever the column is. -/
  | strategy (text : String) (hnone : ∀ s, ¬e.2.Declares s) (htext : e.2.plain = .ok text) :
    Defect r recordType name aliases e
      (.fault (.ofCause (.invalidStrategy (.text e.1) e.2)))
  /-- The value declares no strategy and has no text, so that no message shows it. -/
  | wordless (why : Unwritable) (hnone : ∀ s, ¬e.2.Declares s) (htext : e.2.plain = .error why) :
    Defect r recordType name aliases e (.misuse (.unwritable why))
  /-- The column is neither an alias nor a column of the record type. -/
  | column (s : Strategy) (hs : e.2.Declares s) (halias : aliases.contains e.1 = false)
      (hcolumn : r.inspector.hasColumn recordType e.1 = .ok false) :
    Defect r recordType name aliases e
      (.fault (.ofCause (.unknownColumn (.text e.1) (.text name))))
  /-- The column is no alias, and the record type is one whose columns the inspector cannot know. -/
  | inspector (s : Strategy) (m : Misuse) (hs : e.2.Declares s)
      (halias : aliases.contains e.1 = false)
      (hcolumn : r.inspector.hasColumn recordType e.1 = .error m) :
    Defect r recordType name aliases e (.misuse m)

/-- A column with a strategy that is in order passes both checks. -/
theorem Accepts.checks {e : String × Value} (h : r.Accepts recordType aliases e) (name : String) :
    ∃ s, Strategy.ofValue (.text e.1) e.2 = .ok s ∧
      r.checkColumn recordType name aliases e.1 = .ok () := by
  obtain ⟨s, hs⟩ := h.strategy
  exact ⟨s, Strategy.ofValue_eq_ok_iff.2 hs, checkColumn_of_known h.column⟩

/-- Both checks of one declared column. -/
def acceptColumn (r : Registry) (recordType : Value) (name : String) (aliases : Entries Value)
    (e : String × Value) : Except Failure (String × Strategy) := do
  let s ← Strategy.ofValue (.text e.1) e.2
  r.checkColumn recordType name aliases e.1
  return (e.1, s)

/-- Columns are accepted one by one. -/
theorem acceptColumns_eq_mapM (es : Entries Value) :
    r.acceptColumns recordType name aliases es =
      es.mapM (r.acceptColumn recordType name aliases) := by
  induction es with
  | nil => rfl
  | cons e es ih =>
    rw [acceptColumns, ih, List.mapM_cons, acceptColumn]
    cases Strategy.ofValue (.text e.1) e.2 with
    | error f => rfl
    | ok s => cases r.checkColumn recordType name aliases e.1 <;> rfl

/-- A column with a defect fails one of the two checks, with the failure that reports the defect. -/
theorem Defect.fails {e : String × Value} {f : Failure}
    (h : r.Defect recordType name aliases e f) :
    r.acceptColumn recordType name aliases e = .error f := by
  cases h with
  | strategy text hnone htext | wordless why hnone htext =>
    rw [acceptColumn, Strategy.ofValue_of_not_declares hnone, htext]
    rfl
  | column s hs halias hcolumn | inspector s m hs halias hcolumn =>
    rw [acceptColumn, Strategy.ofValue_eq_ok_iff.2 hs, checkColumn, halias]
    simp only [hcolumn]
    rfl

/-- A declared column is in order or has a defect. -/
theorem accepts_or_defect (r : Registry) (recordType : Value) (name : String)
    (aliases : Entries Value) (e : String × Value) :
    r.Accepts recordType aliases e ∨ ∃ f, r.Defect recordType name aliases e f := by
  by_cases hstrategy : ∃ s, e.2.Declares s
  · obtain ⟨s, hs⟩ := hstrategy
    cases halias : aliases.contains e.1 with
    | true => exact .inl ⟨⟨s, hs⟩, .inl halias⟩
    | false => cases hcolumn : r.inspector.hasColumn recordType e.1 with
      | error m => exact .inr ⟨_, .inspector s m hs halias hcolumn⟩
      | ok known => cases known with
        | true => exact .inl ⟨⟨s, hs⟩, .inr hcolumn⟩
        | false => exact .inr ⟨_, .column s hs halias hcolumn⟩
  · have hnone : ∀ s, ¬e.2.Declares s := not_exists.1 hstrategy
    cases htext : e.2.plain with
    | ok text => exact .inr ⟨_, .strategy text hnone htext⟩
    | error why => exact .inr ⟨_, .wordless why hnone htext⟩

/-- The first defect decides, whatever is declared after it. -/
theorem acceptColumns_of_defect {before after : Entries Value} {e : String × Value} {f : Failure}
    (hbefore : ∀ b ∈ before, r.Accepts recordType aliases b)
    (h : r.Defect recordType name aliases e f) :
    r.acceptColumns recordType name aliases (before ++ e :: after) = .error f := by
  have hpass : ∀ b ∈ before, ∃ c, r.acceptColumn recordType name aliases b = .ok c := by
    intro b hb
    obtain ⟨s, hs, hcheck⟩ := (hbefore b hb).checks name
    exact ⟨(b.1, s), by rw [acceptColumn, hs, hcheck]; rfl⟩
  rw [acceptColumns_eq_mapM]
  exact mapM_eq_error_iff.2 ⟨before, e, after, rfl, hpass, h.fails⟩

/-- Columns are all in order, or one of them is the first that has a defect. -/
theorem accepts_or_first_defect (r : Registry) (recordType : Value) (name : String)
    (aliases : Entries Value) (es : Entries Value) :
    (∀ e ∈ es, r.Accepts recordType aliases e) ∨
      ∃ f before e after, es = before ++ e :: after ∧
        (∀ b ∈ before, r.Accepts recordType aliases b) ∧
        r.Defect recordType name aliases e f := by
  induction es with
  | nil => exact .inl fun e he => by cases he
  | cons e es ih =>
    rcases r.accepts_or_defect recordType name aliases e with he | ⟨f, hf⟩
    · rcases ih with hall | ⟨f, before, e', after, rfl, hbefore, hf⟩
      · exact .inl (List.forall_mem_cons.2 ⟨he, hall⟩)
      · exact .inr ⟨f, e :: before, e', after, rfl, List.forall_mem_cons.2 ⟨he, hbefore⟩, hf⟩
    · exact .inr ⟨f, [], e, es, rfl, List.forall_mem_nil _, hf⟩

/-- Columns that are all in order are accepted. -/
theorem exists_acceptColumns (name : String) {es : Entries Value}
    (h : ∀ e ∈ es, r.Accepts recordType aliases e) :
    ∃ ss, r.acceptColumns recordType name aliases es = .ok ss := by
  have hread : ∀ e ∈ es, ∃ s, Strategy.ofValue (.text e.1) e.2 = .ok s := by
    intro e he
    obtain ⟨s, hs, -⟩ := (h e he).checks name
    exact ⟨s, hs⟩
  have hknown : ∀ e ∈ es, r.checkColumn recordType name aliases e.1 = .ok () := fun e he =>
    checkColumn_of_known (h e he).column
  obtain ⟨ss, hss⟩ := Strategy.exists_read hread
  exact ⟨ss, acceptColumns_eq_ok_iff.2 ⟨hss, hknown⟩⟩

/-- What registering a record type that has no schema comes to. -/
structure Judges (r : Registry) (recordType : Value) (d : Declaration) : Prop where
  /-- The declaration is accepted exactly when all its columns are in order. -/
  accepted_iff : ∀ name, r.inspector.typeName recordType = .ok name →
    ((∃ x, (r.register recordType d).answer = .ok x) ↔
      ∀ e ∈ d.strategies, r.Accepts recordType d.aliases e)
  /-- A schema that is the answer is that of the declaration. It is stored and found again, and
  there is one event, which reports its columns and its finder. -/
  stored : ∀ x, (r.register recordType d).answer = .ok x →
    (∃ name, r.inspector.typeName recordType = .ok name ∧ x.IsOf name r.settings.finder d) ∧
      r.register recordType d =
        ⟨r.store recordType x, .ok x,
          [.registered x.recordType d.strategies.names x.finder]⟩ ∧
      (r.register recordType d).state.get recordType = .ok x
  /-- The declaration is refused exactly for the first column that has a defect. -/
  refused_iff : ∀ name f, r.inspector.typeName recordType = .ok name →
    ((r.register recordType d).answer = .error f ↔
      ∃ before e after, d.strategies = before ++ e :: after ∧
        (∀ b ∈ before, r.Accepts recordType d.aliases b) ∧
        r.Defect recordType name d.aliases e f)
  /-- A record type that the inspector cannot name is refused for that. -/
  nameless : ∀ m, r.inspector.typeName recordType = .error m →
    (r.register recordType d).answer = .error (.misuse m)
  /-- A refusal reports nothing, and the record type stays without a schema. -/
  unchanged : ∀ f, (r.register recordType d).answer = .error f →
    r.register recordType d = ⟨r, .error f, []⟩ ∧
      (r.register recordType d).state.contains recordType = .ok false

/-- A record type that is not contained can be a key, and there is no schema for it. -/
theorem of_contains_eq_false (h : r.contains recordType = .ok false) :
    recordType.unhashable? = none ∧ r.find? recordType = none := by
  unfold contains checkKey at h
  cases hkey : recordType.unhashable? with
  | some kind =>
    rw [hkey] at h
    cases h
  | none =>
    rw [hkey] at h
    have hfound : (r.find? recordType).isSome = false := Except.ok.inj h
    exact ⟨rfl, Option.not_isSome_iff_eq_none.1 (by rw [hfound]; exact Bool.false_ne_true)⟩

/-- A schema is built of a declaration whose columns are all in order. -/
theorem exists_build {tokens : List Value} (htokens : Order.tokens d.order = .ok tokens)
    (hname : r.inspector.typeName recordType = .ok name)
    (h : ∀ e ∈ d.strategies, r.Accepts recordType d.aliases e) :
    ∃ x, r.build recordType d = .ok x := by
  obtain ⟨ss, hss⟩ := exists_acceptColumns name h
  exact ⟨_, (build_eq_ok_iff htokens).2 ⟨name, ss, hname, hss, rfl⟩⟩

/-- None is built where a column has a defect, and the first such column is reported. -/
theorem build_of_defect {f : Failure} (hname : r.inspector.typeName recordType = .ok name)
    (h : ∃ before e after, d.strategies = before ++ e :: after ∧
      (∀ b ∈ before, r.Accepts recordType d.aliases b) ∧
      r.Defect recordType name d.aliases e f) : r.build recordType d = .error f := by
  obtain ⟨before, e, after, hsplit, hbefore, hf⟩ := h
  rw [build, hname, hsplit]
  simp only [mapError_ok, bind, Except.bind, acceptColumns_of_defect hbefore hf]

/-- A refusal stores nothing and reports nothing. -/
theorem register_of_error {f : Failure} (h : (r.register recordType d).answer = .error f) :
    r.register recordType d = ⟨r, .error f, []⟩ := by
  rcases r.register_cases recordType d with ⟨e, he⟩ | ⟨x, events, -, hx⟩ | ⟨x, -, -, -, hx⟩
  · rw [he] at h ⊢
    obtain rfl := Except.error.inj h
    rfl
  · rw [hx] at h
    cases h
  · rw [hx] at h
    cases h

/-- Registering a record type that has no schema judges the declaration by its columns. -/
theorem register_judged (r : Registry) (recordType : Value) (d : Declaration)
    (hnew : r.contains recordType = .ok false) (horder : d.order.WritesOrder) :
    r.Judges recordType d := by
  obtain ⟨hkey, hfind⟩ := of_contains_eq_false hnew
  obtain ⟨tokens, htokens⟩ := Order.exists_tokens horder
  have hanswer : (r.register recordType d).answer = r.build recordType d :=
    answer_register_of_new hkey hfind
  -- All columns are in order or there is a first defect, and of these two each has its outcome.
  constructor
  case accepted_iff =>
    intro name hname
    constructor
    · rintro ⟨x, hx⟩
      rcases r.accepts_or_first_defect recordType name d.aliases d.strategies with hall | hfirst
      · exact hall
      · obtain ⟨f, hfirst⟩ := hfirst
        have hfailed : r.build recordType d = .error f := build_of_defect hname hfirst
        rw [hanswer, hfailed] at hx
        cases hx
    · intro hall
      obtain ⟨x, hx⟩ := exists_build htokens hname hall
      exact ⟨x, hanswer.trans hx⟩
  case stored =>
    intro x hx
    rcases r.register_cases recordType d with ⟨e, h⟩ | ⟨y, events, hy, h⟩ | ⟨y, -, -, hb, h⟩
    · rw [h] at hx
      cases hx
    · -- There would have been a schema before.
      rw [schemaOf?, hkey, Option.isNone_none, if_pos rfl, hfind] at hy
      cases hy
    · rw [h] at hx
      obtain rfl := Except.ok.inj hx
      obtain ⟨name, ss, hname, haccept, rfl⟩ := (build_eq_ok_iff htokens).1 hb
      have hdeclared : List.Forall₂ (fun e f => e.1 = f.1 ∧ e.2.Declares f.2)
          d.strategies ss :=
        (acceptColumns_eq_ok_iff.1 haccept).1.imp fun e f hef =>
          ⟨hef.1, Strategy.ofValue_eq_ok_iff.1 hef.2⟩
      have hnames : d.strategies.names = ss.names :=
        Entries.names_eq_of_forall₂ (r := fun _ v s => v.Declares s) hdeclared
      refine ⟨⟨name, hname, rfl, hdeclared, htokens, rfl, rfl, rfl⟩, ?_, ?_⟩
      · rw [h, hnames]
      · rw [h, get_eq_ok_iff, schemaOf?_store hkey, if_pos (Value.isSameKey_self hkey), schemaOf?,
          hkey, Option.isNone_none, if_pos rfl, hfind, Option.none_or]
  case refused_iff =>
    intro name f hname
    constructor
    · intro hf
      rcases r.accepts_or_first_defect recordType name d.aliases d.strategies with hall | hfirst
      · obtain ⟨x, hx⟩ := exists_build htokens hname hall
        rw [hanswer, hx] at hf
        cases hf
      · obtain ⟨g, hfirst⟩ := hfirst
        have hfailed : r.build recordType d = .error g := build_of_defect hname hfirst
        rw [hanswer, hfailed] at hf
        obtain rfl := Except.error.inj hf
        exact hfirst
    · intro hdefect
      rw [hanswer, build_of_defect hname hdefect]
  case nameless =>
    intro m hm
    rw [hanswer, build, hm]
    rfl
  case unchanged =>
    intro f hf
    rw [register_of_error hf]
    exact ⟨rfl, hnew⟩

/-- A registry over one record type. -/
def persons : Registry :=
  .empty (.listed [(.recordType "Person", ["name", "age"])]) .usual

/-- A declaration whose second column has no strategy and is unknown, and whose third is unknown. -/
def faulty : Declaration :=
  ⟨[("name", .text "match_full"), ("shoe", .text "nope"), ("hat", .text "including")],
    .text "-age", .null, [], .null⟩

/-- A declaration of a column and of an alias. -/
def aliased : Declaration :=
  ⟨[("age", .strategy .openRange), ("hat", .text "match_full")], .null, .null,
    [("hat", .text "h.name")], .text ""⟩

/-- The strategy of the second column is what is reported of the first declaration, and the second
one is accepted. -/
theorem persons_judged :
    persons.contains (.recordType "Person") = .ok false ∧
      faulty.order.WritesOrder ∧ aliased.order.WritesOrder ∧
      (persons.register (.recordType "Person") faulty).answer =
        .error (.fault (.ofCause (.invalidStrategy (.text "shoe") (.text "nope")))) ∧
      ∃ x, (persons.register (.recordType "Person") aliased).answer = .ok x := by
  have hnew : persons.contains (.recordType "Person") = .ok false := rfl
  have hname : persons.inspector.typeName (.recordType "Person") = .ok "Person" := by
    simp [persons, empty, Inspector.listed, Value.recordTypeName, Value.typeName]
  have hcolumn : ∀ column ∈ ["name", "age"],
      persons.inspector.hasColumn (.recordType "Person") column = .ok true := by
    intro column hc
    simpa [persons, empty, Inspector.listed, Value.find?, Value.same, Value.sameAtom,
      Value.unhashable?] using hc
  have hfaulty : faulty.order.WritesOrder := .inr rfl
  have haliased : aliased.order.WritesOrder := .inl rfl
  have hnope : ∀ s, ¬(Value.text "nope").Declares s := by
    intro s h
    have hread : Strategy.ofValue .null (.text "nope") = .ok s := Strategy.ofValue_eq_ok_iff.2 h
    cases hread
  refine ⟨hnew, hfaulty, haliased, ?_, ?_⟩
  · refine ((register_judged persons _ faulty hnew hfaulty).refused_iff _ _ hname).2
      ⟨[("name", .text "match_full")], ("shoe", .text "nope"), [("hat", .text "including")], rfl,
        ?_, .strategy "nope" hnope rfl⟩
    intro b hb
    obtain rfl := List.mem_singleton.1 hb
    exact ⟨⟨.matchFull, .name .matchFull⟩, .inr (hcolumn _ (by decide))⟩
  · refine ((register_judged persons _ aliased hnew haliased).accepted_iff _ hname).2 ?_
    refine List.forall_mem_cons.2 ⟨⟨⟨_, .itself _⟩, .inr (hcolumn _ (by decide))⟩, ?_⟩
    exact List.forall_mem_singleton.2 ⟨⟨.matchFull, .name .matchFull⟩, .inl rfl⟩

/-- A declaration of one column and its alias. -/
def ofName (v : Value) (aliases : Entries Value) : Declaration :=
  ⟨[("name", v)], .null, .null, aliases, .null⟩

/-- Not every refusal is for a strategy or a column: an inspector of tables does not know the
columns of a record type that is in none, a strategy that is an error without a text cannot be
shown, and a record type that is one has no name, even where all columns are in order. -/
theorem unreadable_refused :
    (empty .mapped .usual).contains (.recordType "Person") = .ok false ∧
      ((empty .mapped .usual).register (.recordType "Person")
        (ofName (.text "match_full") [])).answer =
          .error (.misuse (.notMapped "<class 'type'>")) ∧
      persons.contains (.recordType "Person") = .ok false ∧
      (persons.register (.recordType "Person") (ofName (.error 0 Schema.wordless) [])).answer =
        .error (.misuse (.unwritable (.key "tuple"))) ∧
      persons.contains (.error 0 Schema.wordless) = .ok false ∧
      persons.Accepts (.error 0 Schema.wordless) [("name", .text "n")]
        ("name", .text "match_full") ∧
      (persons.register (.error 0 Schema.wordless)
        (ofName (.text "match_full") [("name", .text "n")])).answer =
          .error (.misuse (.unwritable (.key "tuple"))) := by
  refine ⟨rfl, ?_, rfl, ?_, rfl, ⟨⟨.matchFull, .name .matchFull⟩, .inl rfl⟩, rfl⟩
  · rfl
  · rfl

end Registry

end Searchable
