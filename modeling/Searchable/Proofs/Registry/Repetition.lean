import Searchable.Proofs.Registry.Stored
import Searchable.Proofs.Value.Maps

/-!
# Declaring a record type again

A second declaration is compared with the stored schema as it is written, and the schema was parsed
and completed when it was stored. `Schema.Matches` compares two schemas field by field. The
comparison finds out whether the declaration says what the stored schema says
(`Schema.declaredBy_cases`), which a declaration of which a schema can be built does exactly when
the two schemas match (`Schema.saidBy_iff_matches`). Conversely a declaration that says what the
stored schema says is one of which a schema can be built (`Registry.exists_build_of_saidBy`), since
its strategies have been read and its columns have been found before.
-/

namespace Searchable

/-- Whether a declaration has a value for each name at most once, as a map does. -/
structure Declaration.HasMaps (d : Declaration) : Prop where
  /-- The strategies are a map from columns. -/
  strategies : d.strategies.names.Nodup
  /-- The aliases are a map from columns. -/
  aliases : d.aliases.names.Nodup

/-- Whether a schema has a value for each name at most once, as a map does. -/
structure Schema.HasMaps (s : Schema) : Prop where
  /-- The strategies are a map from columns. -/
  strategies : s.strategies.names.Nodup
  /-- The aliases are a map from columns. -/
  aliases : s.aliases.names.Nodup

/-- Whether two schemas are equal field by field, apart from the name of the record type. Maps are
compared name by name, so that their order does not count. -/
structure Schema.Matches (s x : Schema) : Prop where
  /-- They have the same columns with the same strategies. -/
  strategies : ∀ column, s.strategies.get? column = x.strategies.get? column
  /-- The tokens of the usual order are the same one by one. -/
  order : List.Forall₂ (Value.same · · = true) s.order x.order
  /-- What to load along is equal. -/
  eagerLoad : Value.equal s.eagerLoad x.eagerLoad = true
  /-- The same expressions stand in for the same columns. -/
  aliases : ∀ column,
    Option.Rel (Value.same · · = true) (s.aliases.get? column) (x.aliases.get? column)
  /-- The finder is equal. -/
  finder : Value.equal s.finder x.finder = true

/-- Strategies of one name are the same. -/
theorem Strategy.eq_of_name {a b : Strategy} (h : a.name = b.name) : a = b := by
  have ha := ofName?_name a
  rw [h, ofName?_name] at ha
  exact (Option.some.inj ha).symm

/-- A value with which a column can be declared is the name of the strategy that it stands for. -/
theorem Strategy.text?_of_ofValue {column v : Value} {s : Strategy}
    (h : ofValue column v = .ok s) : v.text? = some s.name := by
  unfold ofValue at h
  split at h
  · obtain rfl := Except.ok.inj h
    rfl
  · split at h
    · rename_i name _ hname
      obtain rfl := Except.ok.inj h
      exact congrArg some (name_of_ofName? hname).symm
    · cases h
  · cases h

/-- The name of a strategy stands for it. -/
theorem Strategy.ofValue_of_text? {column v : Value} {s : Strategy} (h : v.text? = some s.name) :
    ofValue column v = .ok s := by
  cases v with
  | strategy other => exact congrArg Except.ok (eq_of_name (Option.some.inj h))
  | text name =>
    obtain rfl : name = s.name := Option.some.inj h
    simp only [ofValue, ofName?_name]
  | _ => cases h

namespace Registry

variable {r : Registry} {recordType : Value} {d : Declaration} {s x : Schema}

/-- Columns are accepted exactly when each is declared with a strategy or its name and is an alias
or a column of the record type. -/
theorem acceptColumns_eq_ok_iff {name : String} {aliases es : Entries Value}
    {ss : Entries Strategy} :
    r.acceptColumns recordType name aliases es = .ok ss ↔
      List.Forall₂ (fun e f => e.1 = f.1 ∧ Strategy.ofValue (.text e.1) e.2 = .ok f.2) es ss ∧
        ∀ e ∈ es, r.checkColumn recordType name aliases e.1 = .ok () := by
  induction es generalizing ss with
  | nil =>
    rw [acceptColumns]
    constructor
    · intro h
      obtain rfl := Except.ok.inj h
      exact ⟨.nil, fun e he => by cases he⟩
    · rintro ⟨h, -⟩
      cases h
      rfl
  | cons e es ih =>
    obtain ⟨column, v⟩ := e
    rw [acceptColumns]
    constructor
    · intro h
      obtain ⟨strategy, hstrategy, h⟩ := bind_eq_ok_iff.1 h
      obtain ⟨_, hcheck, h⟩ := bind_eq_ok_iff.1 h
      obtain ⟨rest, hrest, h⟩ := bind_eq_ok_iff.1 h
      obtain rfl := Except.ok.inj h
      obtain ⟨hread, hchecked⟩ := ih.1 hrest
      exact ⟨.cons ⟨rfl, hstrategy⟩ hread, List.forall_mem_cons.2 ⟨hcheck, hchecked⟩⟩
    · rintro ⟨hread, hchecked⟩
      obtain ⟨hcheck, hchecked⟩ := List.forall_mem_cons.1 hchecked
      cases hread with
      | @cons _ f _ rest hf hread =>
        obtain ⟨m, strategy⟩ := f
        obtain ⟨rfl, hstrategy⟩ := hf
        refine bind_eq_ok_iff.2 ⟨strategy, hstrategy, bind_eq_ok_iff.2 ⟨(), hcheck, ?_⟩⟩
        exact bind_eq_ok_iff.2 ⟨rest, ih.2 ⟨hread, hchecked⟩, rfl⟩

/-- A schema is built exactly when the record type has a name, the columns are accepted, and the
order has tokens. -/
theorem build_eq_ok_iff {tokens : List Value} (htokens : Order.tokens d.order = .ok tokens) :
    r.build recordType d = .ok x ↔
      ∃ name ss, r.inspector.typeName recordType = .ok name ∧
        r.acceptColumns recordType name d.aliases d.strategies = .ok ss ∧
        x = ⟨name, ss, tokens, d.eagerLoad, d.aliases, r.finderOf d⟩ := by
  rw [build, htokens]
  constructor
  · intro h
    obtain ⟨name, hname, h⟩ := bind_eq_ok_iff.1 h
    obtain ⟨ss, hss, h⟩ := bind_eq_ok_iff.1 h
    exact ⟨name, ss, mapError_eq_ok_iff.1 hname, hss, (Except.ok.inj h).symm⟩
  · rintro ⟨name, ss, hname, hss, rfl⟩
    refine bind_eq_ok_iff.2 ⟨name, mapError_eq_ok_iff.2 hname, bind_eq_ok_iff.2 ⟨ss, hss, ?_⟩⟩
    rfl

/-- The schema of a declaration with maps has maps. -/
theorem hasMaps_of_build (hd : d.HasMaps) (h : r.build recordType d = .ok x) : x.HasMaps := by
  obtain ⟨name, -, h⟩ := bind_eq_ok_iff.1 h
  obtain ⟨ss, hss, h⟩ := bind_eq_ok_iff.1 h
  obtain ⟨tokens, -, h⟩ := bind_eq_ok_iff.1 h
  obtain rfl := Except.ok.inj h
  have hnames : d.strategies.names = ss.names :=
    Entries.names_eq_of_forall₂
      (r := fun column v strategy => Strategy.ofValue (.text column) v = .ok strategy)
      (acceptColumns_eq_ok_iff.1 hss).1
  exact ⟨hnames ▸ hd.strategies, hd.aliases⟩

/-- The schema of a declaration is named by the record type in the form in which it is given. -/
theorem typeName_of_build (h : r.build recordType d = .ok x) :
    r.inspector.typeName recordType = .ok x.recordType := by
  obtain ⟨name, hname, h⟩ := bind_eq_ok_iff.1 h
  obtain ⟨_, -, h⟩ := bind_eq_ok_iff.1 h
  obtain ⟨_, -, h⟩ := bind_eq_ok_iff.1 h
  obtain rfl := Except.ok.inj h
  exact mapError_eq_ok_iff.1 hname

end Registry

section Comparison

variable {r : Registry} {recordType finder : Value} {d : Declaration} {s x : Schema}
  {tokens : List Value}

/-- Whether a declaration, with its finder and the tokens of its order, says field by field what a
schema says. A strategy may be written as its name. -/
structure Schema.SaidBy (s : Schema) (finder : Value) (tokens : List Value) (d : Declaration) :
    Prop where
  /-- The columns are declared with the strategies of the schema. -/
  strategies : ∀ column, Option.Rel (fun strategy v => Value.same (.strategy strategy) v = true)
    (s.strategies.get? column) (d.strategies.get? column)
  /-- The tokens of the order are those of the schema. -/
  order : List.Forall₂ (Value.same · · = true) s.order tokens
  /-- What to load along is equal. -/
  eagerLoad : Value.equal s.eagerLoad d.eagerLoad = true
  /-- The same expressions stand in for the same columns. -/
  aliases : ∀ column,
    Option.Rel (Value.same · · = true) (s.aliases.get? column) (d.aliases.get? column)
  /-- The finder is equal. -/
  finder : Value.equal s.finder finder = true

/-- The comparison of a declaration with a schema finds out whether it says the same. -/
theorem Schema.declaredBy_cases (hs : s.HasMaps) (hd : d.HasMaps)
    (htokens : Order.tokens d.order = .ok tokens) :
    (s.declaredBy finder d = .ok true ∧ s.SaidBy finder tokens d) ∨
      (s.declaredBy finder d = .ok false ∧ ¬s.SaidBy finder tokens d) := by
  have hstrategies : Value.same s.strategyMap d.strategyMap = true ↔ ∀ column,
      Option.Rel (fun strategy v => Value.same (.strategy strategy) v = true)
        (s.strategies.get? column) (d.strategies.get? column) :=
    Value.same_names_iff Value.strategy id hs.strategies hd.strategies
  have haliases : Value.same s.aliasMap d.aliasMap = true ↔ ∀ column,
      Option.Rel (Value.same · · = true) (s.aliases.get? column) (d.aliases.get? column) :=
    Value.same_names_iff id id hs.aliases hd.aliases
  cases hmap : Value.same s.strategyMap d.strategyMap with
  | false =>
    -- The comparison ends here, and its answer does not depend on the rest of the declaration.
    refine .inr ⟨by simp only [declaredBy, hmap, Bool.false_eq_true, if_false], fun h => ?_⟩
    rw [hstrategies.2 h.strategies] at hmap
    cases hmap
  | true =>
    have hrest : s.declaredBy finder d = .ok (Value.sameItems s.order tokens &&
        Value.equal s.eagerLoad d.eagerLoad && Value.same s.aliasMap d.aliasMap &&
        Value.equal s.finder finder) := by
      simp only [declaredBy, hmap, if_true, htokens]
      rfl
    have hiff : (Value.sameItems s.order tokens && Value.equal s.eagerLoad d.eagerLoad &&
        Value.same s.aliasMap d.aliasMap && Value.equal s.finder finder) = true ↔
        s.SaidBy finder tokens d := by
      simp only [Bool.and_eq_true, Value.sameItems_iff, haliases, and_assoc]
      exact ⟨fun ⟨ho, he, ha, hf⟩ => ⟨hstrategies.1 hmap, ho, he, ha, hf⟩,
        fun h => ⟨h.order, h.eagerLoad, h.aliases, h.finder⟩⟩
    rw [hrest]
    generalize (Value.sameItems s.order tokens && Value.equal s.eagerLoad d.eagerLoad &&
      Value.same s.aliasMap d.aliasMap && Value.equal s.finder finder) = same at hiff
    cases same with
    | true => exact .inl ⟨rfl, hiff.1 rfl⟩
    | false => exact .inr ⟨rfl, fun h => by cases hiff.2 h⟩

/-- A declaration says what a schema says exactly when the schema that is built of it matches. -/
theorem Schema.saidBy_iff_matches (htokens : Order.tokens d.order = .ok tokens)
    (hx : r.build recordType d = .ok x) :
    s.SaidBy (r.finderOf d) tokens d ↔ s.Matches x := by
  obtain ⟨name, ss, -, hss, rfl⟩ := (Registry.build_eq_ok_iff htokens).1 hx
  have hread (column : String) : Option.Rel
      (fun v strategy => Strategy.ofValue (.text column) v = .ok strategy)
      (d.strategies.get? column) (ss.get? column) :=
    Entries.rel_get?_of_forall₂
      (r := fun column v strategy => Strategy.ofValue (.text column) v = .ok strategy)
      (Registry.acceptColumns_eq_ok_iff.1 hss).1 column
  have hstrategies : (∀ column,
      Option.Rel (fun strategy v => Value.same (.strategy strategy) v = true)
        (s.strategies.get? column) (d.strategies.get? column)) ↔
      ∀ column, s.strategies.get? column = ss.get? column := by
    refine forall_congr' fun column => ?_
    have hcolumn := hread column
    generalize d.strategies.get? column = written at hcolumn
    generalize ss.get? column = parsed at hcolumn
    cases hcolumn with
    | none => cases s.strategies.get? column with
      | none => exact ⟨fun _ => rfl, fun _ => .none⟩
      | some strategy => constructor <;> intro h <;> cases h
    | @some v strategy hv =>
      -- What is written is the strategy that was read of it, or its name.
      have htext := Strategy.text?_of_ofValue hv
      cases hstored : s.strategies.get? column with
      | none => constructor <;> intro h <;> cases h
      | some stored =>
        constructor
        · intro h
          cases h with
          | some hsame =>
            have hname := (Value.same_strategy_iff.1 hsame).symm.trans htext
            exact congrArg some (Strategy.eq_of_name (Option.some.inj hname))
        · intro h
          obtain rfl := Option.some.inj h
          exact .some (Value.same_strategy_iff.2 htext)
  exact ⟨fun h => ⟨hstrategies.1 h.strategies, h.order, h.eagerLoad, h.aliases, h.finder⟩,
    fun h => ⟨hstrategies.2 h.strategies, h.order, h.eagerLoad, h.aliases, h.finder⟩⟩

/-- A column that is an alias or a column of the record type is not refused. -/
theorem Registry.checkColumn_of_known {name column : String} {aliases : Entries Value}
    (h : aliases.contains column = true ∨ r.inspector.hasColumn recordType column = .ok true) :
    r.checkColumn recordType name aliases column = .ok () := by
  unfold checkColumn
  cases ha : aliases.contains column with
  | true => rfl
  | false =>
    rw [ha] at h
    have hknown := h.resolve_left Bool.false_ne_true
    simp only [hknown]
    rfl

/-- Where each value of a map can be read as a strategy, there is a map of what is read. -/
theorem Strategy.exists_read {es : Entries Value}
    (h : ∀ e ∈ es, ∃ strategy, ofValue (.text e.1) e.2 = .ok strategy) :
    ∃ ss : Entries Strategy,
      List.Forall₂ (fun e f => e.1 = f.1 ∧ ofValue (.text e.1) e.2 = .ok f.2) es ss := by
  induction es with
  | nil => exact ⟨[], .nil⟩
  | cons e es ih =>
    obtain ⟨⟨strategy, hstrategy⟩, hrest⟩ := List.forall_mem_cons.1 h
    obtain ⟨ss, hss⟩ := ih hrest
    exact ⟨(e.1, strategy) :: ss, .cons ⟨rfl, hstrategy⟩ hss⟩

/-- Of a declaration that says what a sound schema says, a schema can be built. -/
theorem Registry.exists_build_of_saidBy {name : String}
    (hname : r.inspector.typeName recordType = .ok name) (hd : d.HasMaps)
    (htokens : Order.tokens d.order = .ok tokens) (hsound : s.IsSoundFor r.inspector recordType)
    (h : s.SaidBy finder tokens d) : ∃ x, r.build recordType d = .ok x := by
  -- Each declared column is one of the schema, with the strategy that it has there.
  have hdeclared : ∀ e ∈ d.strategies, e.1 ∈ s.strategies.names ∧
      ∃ strategy, Strategy.ofValue (.text e.1) e.2 = .ok strategy := by
    intro e he
    have hcolumn := h.strategies e.1
    rw [Entries.get?_of_mem hd.strategies he] at hcolumn
    cases hstored : s.strategies.get? e.1 with
    | none =>
      rw [hstored] at hcolumn
      cases hcolumn
    | some strategy =>
      rw [hstored] at hcolumn
      cases hcolumn with
      | some hsame =>
        exact ⟨Entries.contains_iff.1 (Entries.contains_of_get? hstored), strategy,
          Strategy.ofValue_of_text? (Value.same_strategy_iff.1 hsame)⟩
  have hknown : ∀ e ∈ d.strategies,
      r.checkColumn recordType name d.aliases e.1 = .ok () := by
    intro e he
    refine checkColumn_of_known ((hsound.columns e.1 (hdeclared e he).1).imp_left fun halias => ?_)
    -- An alias of the schema is one of the declaration.
    obtain ⟨expression, hget⟩ := Option.isSome_iff_exists.1 halias
    have hcolumn := h.aliases e.1
    rw [hget] at hcolumn
    cases hother : d.aliases.get? e.1 with
    | none =>
      rw [hother] at hcolumn
      cases hcolumn
    | some other => exact Entries.contains_of_get? hother
  obtain ⟨ss, hss⟩ := Strategy.exists_read fun e he => (hdeclared e he).2
  exact ⟨_, (build_eq_ok_iff htokens).2
    ⟨name, ss, hname, acceptColumns_eq_ok_iff.2 ⟨hss, hknown⟩, rfl⟩⟩

end Comparison

namespace Registry

variable {r : Registry} {recordType : Value} {d : Declaration} {s x : Schema} {tokens : List Value}

/-- What a declaration comes to that is the same as the first: the event says so, and the schema is
the answer. -/
def repetition (r : Registry) (s : Schema) : Outcome Registry Schema :=
  ⟨r, .ok s, [.repeated s.recordType]⟩

/-- What a declaration comes to that is another than the first. A strict registry refuses it without
an event, and another one warns that its columns are ignored. -/
def difference (r : Registry) (s : Schema) (d : Declaration) : Outcome Registry Schema :=
  if r.settings.strict.isTrue then
    ⟨r, .error (.fault (.ofCause (.alreadyRegistered s.recordType))), []⟩
  else ⟨r, .ok s, [.ignored s.recordType d.strategies.names]⟩

/-- A difference leaves the registry as it is. -/
theorem state_difference : (r.difference s d).state = r := by
  unfold difference
  split <;> rfl

/-- Declaring a registered record type again comes to a repetition or a difference, as the
declaration is compared with the schema. -/
theorem register_again (hs : r.schemaOf? recordType = some s) {same : Bool}
    (hsame : s.declaredBy (r.finderOf d) d = .ok same) :
    r.register recordType d = if same then r.repetition s else r.difference s d := by
  unfold schemaOf? at hs
  cases hkey : recordType.unhashable? with
  | some kind =>
    rw [hkey] at hs
    cases hs
  | none =>
    rw [hkey, Option.isNone_none, if_pos rfl] at hs
    unfold register checkKey
    simp only [hkey, hs, registerAgain, hsame]
    cases same with
    | true => rfl
    | false => rfl

/-- A declaration that says what the stored schema says is a repetition. -/
theorem register_of_saidBy (hs : r.schemaOf? recordType = some s) (hmaps : s.HasMaps)
    (hd : d.HasMaps) (htokens : Order.tokens d.order = .ok tokens)
    (h : s.SaidBy (r.finderOf d) tokens d) : r.register recordType d = r.repetition s := by
  rcases Schema.declaredBy_cases hmaps hd htokens with ⟨htrue, -⟩ | ⟨-, hnot⟩
  · exact register_again hs htrue
  · exact absurd h hnot

/-- A declaration that does not say what the stored schema says is a difference. -/
theorem register_of_not_saidBy (hs : r.schemaOf? recordType = some s) (hmaps : s.HasMaps)
    (hd : d.HasMaps) (htokens : Order.tokens d.order = .ok tokens)
    (h : ¬s.SaidBy (r.finderOf d) tokens d) : r.register recordType d = r.difference s d := by
  rcases Schema.declaredBy_cases hmaps hd htokens with ⟨-, hsaid⟩ | ⟨hfalse, -⟩
  · exact absurd hsaid h
  · exact register_again hs hfalse

end Registry

end Searchable
