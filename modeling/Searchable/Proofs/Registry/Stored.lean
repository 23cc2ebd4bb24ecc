import Searchable.Proofs.Chains
import Searchable.Proofs.Value.Sameness
import Searchable.Registry

/-!
# What a registry stores

`Registry.schemaOf?` is the schema that is stored for a record type, whatever form of the type it is
asked for (`schemaOf?_congr`). `register_cases` says all that registering can come to: it is refused
and stores nothing, or the type has a schema that stays, or the schema that is built is stored.
Later proofs split on these cases and do not open `Registry.register` again.

What is built is sound for the record type (`isSoundFor_of_build`): each column is an alias or a
column that the inspector knows. A registry stores sound schemas only (`IsSound.register`). Where
what the inspector knows does not depend on the form of the record type either
(`Inspector.RespectsKeys`), they are sound for each form (`IsSound.of_schemaOf?`).
-/

namespace Searchable

/-- Whether two values are the same key. -/
def Value.isSameKey (a b : Value) : Bool :=
  a.unhashable?.isNone && b.unhashable?.isNone && Value.same a b

/-- Two values are the same key exactly when both can be keys and they are the same. -/
theorem Value.isSameKey_iff {a b : Value} : isSameKey a b = true ↔
    (a.unhashable? = none ∧ b.unhashable? = none) ∧ same a b = true := by
  rw [isSameKey, Bool.and_eq_true, Bool.and_eq_true, Option.isNone_iff_eq_none,
    Option.isNone_iff_eq_none]

/-- What can be a key is the same key as itself. -/
theorem Value.isSameKey_self {v : Value} (h : v.unhashable? = none) : isSameKey v v = true :=
  isSameKey_iff.2 ⟨⟨h, h⟩, same_refl v⟩

/-- What holds of the schema of a record type, given what the columns of the type are asked of. -/
structure Schema.IsSoundFor (x : Schema) (i : Inspector) (recordType : Value) : Prop where
  /-- Each column is an alias or a column of the record type. -/
  columns : ∀ column ∈ x.strategies.names,
    x.aliases.contains column = true ∨ i.hasColumn recordType column = .ok true
  /-- Each strategy is one of those that are listed. -/
  strategies : ∀ e ∈ x.strategies, e.2 ∈ Strategy.all
  /-- The usual order consists of the tokens that are read of it. -/
  order : Order.tokens (.tuple x.order) = .ok x.order

/-- A schema that is sound for a record type is sound for another of which the inspector knows the
same. -/
theorem Schema.IsSoundFor.congr {x : Schema} {i : Inspector} {a b : Value}
    (h : x.IsSoundFor i a)
    (hknown : ∀ column, i.hasColumn a column = .ok true → i.hasColumn b column = .ok true) :
    x.IsSoundFor i b :=
  ⟨fun column hc => (h.columns column hc).imp_right (hknown column), h.strategies, h.order⟩

namespace Inspector

/-- Whether what an inspector knows of the columns of a record type it knows of each form of the
type. -/
def RespectsKeys (i : Inspector) : Prop :=
  ∀ a b column known, Value.isSameKey a b = true → i.hasColumn a column = .ok known →
    i.hasColumn b column = .ok known

/-- A list of columns per record type is found for each form of the type. -/
theorem listed_respectsKeys (columns : List (Value × List String)) :
    (listed columns).RespectsKeys := by
  intro a b column known hkey h
  obtain ⟨⟨ha, hb⟩, hsame⟩ := Value.isSameKey_iff.1 hkey
  simp only [listed, ha] at h
  simp only [listed, hb, ← Value.find?_congr hsame, h]

/-- A record type that is kept in a table has one form only. -/
theorem mapped_respectsKeys : mapped.RespectsKeys := by
  intro a b column known hkey h
  cases a with
  | model m =>
    obtain rfl := Value.eq_of_same_model (Value.isSameKey_iff.1 hkey).2
    exact h
  | _ => cases h

end Inspector

namespace Registry

variable {r : Registry} {recordType other : Value} {d : Declaration} {x : Schema}

/-- The schema that is stored for a record type. -/
def schemaOf? (r : Registry) (recordType : Value) : Option Schema :=
  if recordType.unhashable?.isNone then r.find? recordType else none

/-- A registry without schemas has none for any record type. -/
theorem schemaOf?_empty (i : Inspector) (settings : SearchSettings) (recordType : Value) :
    (empty i settings).schemaOf? recordType = none :=
  ite_self none

/-- Asking for the schema of a record type succeeds with the schema that is stored. -/
theorem get_eq_ok_iff : r.get recordType = .ok x ↔ r.schemaOf? recordType = some x := by
  unfold get schemaOf? checkKey
  cases recordType.unhashable? with
  | some kind => simp [bind, Except.bind]
  | none =>
    cases hf : r.find? recordType with
    | some y => simp [bind, Except.bind]
    | none =>
      cases r.inspector.typeName recordType <;>
        simp [bind, Except.bind, mapError_ok, mapError_error]

/-- A record type is contained exactly when a schema is stored for it. -/
theorem contains_eq_ok_true_iff :
    r.contains recordType = .ok true ↔ (r.schemaOf? recordType).isSome = true := by
  unfold contains schemaOf? checkKey
  cases recordType.unhashable? with
  | some kind => simp [bind, Except.bind]
  | none => simp [bind, Except.bind, pure, Except.pure]

/-- The same schema is stored for all forms of a record type. -/
theorem schemaOf?_congr (h : Value.isSameKey other recordType = true) :
    r.schemaOf? other = r.schemaOf? recordType := by
  obtain ⟨⟨ho, hr⟩, hsame⟩ := Value.isSameKey_iff.1 h
  rw [schemaOf?, schemaOf?, ho, hr, find?, find?, Value.find?_congr hsame]

/-- What is stored comes after what was stored before. -/
theorem schemaOf?_store (hkey : other.unhashable? = none) :
    (r.store other x).schemaOf? recordType =
      (r.schemaOf? recordType).or
        (if Value.isSameKey other recordType then some x else none) := by
  unfold schemaOf? Value.isSameKey
  cases hr : recordType.unhashable? with
  | some kind => simp
  | none =>
    simp only [Option.isNone_none, if_true, hkey, Bool.true_and, find?, store]
    rw [Value.find?_append]
    rfl

/-- What registering comes to: it is refused, the record type has a schema already, or the schema
that is built is stored. -/
theorem register_cases (r : Registry) (recordType : Value) (d : Declaration) :
    (∃ e, r.register recordType d = .look r (.error e)) ∨
    (∃ x events, r.schemaOf? recordType = some x ∧
      r.register recordType d = ⟨r, .ok x, events⟩) ∨
    ∃ x, recordType.unhashable? = none ∧ r.find? recordType = none ∧
      r.build recordType d = .ok x ∧ r.register recordType d =
        ⟨r.store recordType x, .ok x, [.registered x.recordType x.strategies.names x.finder]⟩ := by
  unfold register checkKey
  cases hkey : recordType.unhashable? with
  | some kind => exact .inl ⟨_, rfl⟩
  | none => cases hf : r.find? recordType with
    | none => cases hb : r.build recordType d with
      | error e => exact .inl ⟨e, by simp only [registerNew, hb]⟩
      | ok x => exact .inr (.inr ⟨x, rfl, rfl, rfl, by simp only [registerNew, hb]⟩)
    | some x =>
      have hx : r.schemaOf? recordType = some x := by
        rw [schemaOf?, hkey, Option.isNone_none, if_pos rfl, hf]
      simp only [registerAgain]
      cases x.declaredBy (r.finderOf d) d with
      | error m => exact .inl ⟨_, rfl⟩
      | ok same => cases same with
        | true => exact .inr (.inl ⟨x, _, hx, rfl⟩)
        | false => cases r.settings.strict.isTrue with
          | true => exact .inl ⟨_, rfl⟩
          | false => exact .inr (.inl ⟨x, _, hx, rfl⟩)

/-- Registering a record type that has no schema comes to what building its schema does. -/
theorem answer_register_of_new (hkey : recordType.unhashable? = none)
    (hnew : r.find? recordType = none) :
    (r.register recordType d).answer = r.build recordType d := by
  unfold register checkKey
  rw [hkey, hnew]
  simp only [registerNew]
  cases r.build recordType d <;> rfl

/-- A registry keeps its inspector and its settings. -/
theorem register_inspector (r : Registry) (recordType : Value) (d : Declaration) :
    (r.register recordType d).state.inspector = r.inspector ∧
      (r.register recordType d).state.settings = r.settings := by
  rcases r.register_cases recordType d with ⟨e, h⟩ | ⟨x, events, -, h⟩ | ⟨x, -, -, -, h⟩ <;>
    rw [h] <;> exact ⟨rfl, rfl⟩

/-- Which columns are accepted does not depend on what is stored. -/
theorem acceptColumns_of_empty (r : Registry) (recordType : Value) (name : String)
    (aliases : Entries Value) (es : Entries Value) :
    (empty r.inspector r.settings).acceptColumns recordType name aliases es =
      r.acceptColumns recordType name aliases es := by
  induction es with
  | nil => rfl
  | cons e es ih =>
    obtain ⟨column, v⟩ := e
    rw [acceptColumns, acceptColumns, ih]
    rfl

/-- Which schema is built does not depend on what is stored. -/
theorem build_of_empty (r : Registry) (recordType : Value) (d : Declaration) :
    (empty r.inspector r.settings).build recordType d = r.build recordType d := by
  rw [build, build]
  simp only [acceptColumns_of_empty]
  rfl

/-- A column that is not refused is an alias or a column of the record type. -/
theorem of_checkColumn {name column : String} {aliases : Entries Value}
    (h : r.checkColumn recordType name aliases column = .ok ()) :
    aliases.contains column = true ∨ r.inspector.hasColumn recordType column = .ok true := by
  unfold checkColumn at h
  split at h
  · rename_i halias
    exact .inl halias
  · obtain ⟨known, hknown, h⟩ := bind_eq_ok_iff.1 h
    rw [mapError_eq_ok_iff] at hknown
    cases known with
    | true => exact .inr hknown
    | false => cases h

/-- Columns that are accepted are aliases or columns of the record type. -/
theorem of_acceptColumns {name : String} {aliases es : Entries Value} {ss : Entries Strategy}
    (h : r.acceptColumns recordType name aliases es = .ok ss) :
    ∀ column ∈ ss.names,
      aliases.contains column = true ∨ r.inspector.hasColumn recordType column = .ok true := by
  induction es generalizing ss with
  | nil =>
    obtain rfl := Except.ok.inj h
    intro column hc
    cases hc
  | cons e es ih =>
    obtain ⟨column, v⟩ := e
    obtain ⟨s, -, h⟩ := bind_eq_ok_iff.1 h
    obtain ⟨_, hcheck, h⟩ := bind_eq_ok_iff.1 h
    obtain ⟨ss, hrest, h⟩ := bind_eq_ok_iff.1 h
    obtain rfl := Except.ok.inj h
    intro other hother
    rcases List.mem_cons.1 hother with rfl | hother
    · exact of_checkColumn hcheck
    · exact ih hrest other hother

/-- The schema that is built of a declaration is sound for the record type. -/
theorem isSoundFor_of_build (h : r.build recordType d = .ok x) :
    x.IsSoundFor r.inspector recordType := by
  obtain ⟨name, -, h⟩ := bind_eq_ok_iff.1 h
  obtain ⟨ss, haccept, h⟩ := bind_eq_ok_iff.1 h
  obtain ⟨order, -, h⟩ := bind_eq_ok_iff.1 h
  obtain rfl := Except.ok.inj h
  exact ⟨of_acceptColumns haccept, fun e _ => e.2.mem_all, Order.tokens_tuple order⟩

/-- Whether all stored schemas are sound for the record types under which they are stored. -/
def IsSound (r : Registry) : Prop :=
  ∀ e ∈ r.schemas, e.1.unhashable? = none ∧ e.2.IsSoundFor r.inspector e.1

/-- Registering keeps what is stored sound. -/
theorem IsSound.register (h : r.IsSound) (recordType : Value) (d : Declaration) :
    (r.register recordType d).state.IsSound := by
  rcases r.register_cases recordType d with ⟨e, hr⟩ | ⟨x, events, -, hr⟩ | ⟨x, hkey, -, hb, hr⟩
  · rwa [hr]
  · rwa [hr]
  · rw [hr]
    intro e he
    rcases List.mem_append.1 he with he | he
    · exact h e he
    · obtain rfl := List.mem_singleton.1 he
      have hsound : x.IsSoundFor r.inspector recordType := isSoundFor_of_build hb
      exact ⟨hkey, hsound⟩

/-- A schema that is stored for a record type is sound for it, in whatever form it was stored. -/
theorem IsSound.of_schemaOf? (h : r.IsSound) (hrespects : r.inspector.RespectsKeys)
    (hx : r.schemaOf? recordType = some x) : x.IsSoundFor r.inspector recordType := by
  unfold schemaOf? at hx
  split at hx
  · rename_i hkey
    obtain ⟨k, hmem, hsame⟩ := Value.exists_of_find? hx
    obtain ⟨hk, hsound⟩ := h _ hmem
    have hsameKey := Value.isSameKey_iff.2 ⟨⟨hk, Option.isNone_iff_eq_none.1 hkey⟩, hsame⟩
    exact hsound.congr fun column => hrespects _ _ _ _ hsameKey
  · cases hx

end Registry

end Searchable
