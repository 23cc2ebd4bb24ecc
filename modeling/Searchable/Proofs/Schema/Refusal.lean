import Searchable.Proofs.Schema.Prescribed

/-!
# What is refused, and why

When compiling fails, and with which failure. A column that is given whole and split comes before
all else, then the first name that is not declared, whatever the values are, and then the first
column whose value or target makes no clause. `IsFaulty` says what such a column is, and
`defectIn?_isSome_iff` that the table finds a defect exactly where there is one. A column can also
be faulty because something in it has no text (`wordless_unlisted`).
-/

namespace Searchable

namespace Strategy

/-- The value of a column is at fault exactly when a range column has no two bounds or what is
sought for a partial match has no text. -/
theorem valueDefect?_isSome_iff {s : Strategy} {column : String} {g : Given} :
    (s.valueDefect? column g).isSome ↔
      (s.isRange = true ∧ g.sides? = none) ∨
        (s = .matchPartial ∧ ∃ m, g.value.written = .error m) := by
  cases s with
  | matchFull | including => simp [valueDefect?, isRange]
  | closedRange | openRange => cases h : g.sides? <;> simp [valueDefect?, isRange, h]
  | matchPartial => cases h : g.value.written <;> simp [valueDefect?, isRange, h]

/-- The target of a column is at fault exactly when it has a placeholder and there is a clause over
it. -/
theorem targetDefect?_isSome_iff {s : Strategy} {target : String} {g : Given} :
    (s.targetDefect? target g).isSome ↔ '?' ∈ target.toList ∧ s.rows target g ≠ [] := by
  unfold targetDefect?
  by_cases h : '?' ∈ target.toList
  · cases hr : s.rows target g <;> simp [h]
  · simp [h]

/-- What may be wrong with a column is that a value is misused, or that it is no pair of bounds. -/
theorem eq_of_defect? {s : Strategy} {column : String} {target : Value} {g : Given} {f : Failure}
    (h : s.defect? column target g = some f) :
    (∃ m, f = .misuse m) ∨ f = .fault (.ofCause (noPair column s g.value)) := by
  unfold defect? at h
  split at h
  · cases h
  · split at h
    · exact .inl ⟨_, (Option.some.inj h).symm⟩
    · rcases Option.or_eq_some_iff.1 h with hv | ⟨-, ht⟩
      · cases s with
        | matchFull | including => cases hv
        | closedRange | openRange =>
          simp only [valueDefect?] at hv
          split at hv
          · obtain rfl := Option.some.inj hv
            cases g.value.literal with
            | ok text => exact .inr rfl
            | error why => exact .inl ⟨_, rfl⟩
          · cases hv
        | matchPartial =>
          simp only [valueDefect?] at hv
          split at hv
          · cases hv
          · exact .inl ⟨_, (Option.some.inj hv).symm⟩
      · unfold targetDefect? at ht
        split at ht
        · obtain ⟨r, -, hr⟩ := Option.map_eq_some_iff.1 ht
          exact .inl ⟨_, hr.symm⟩
        · cases ht

end Strategy

namespace Schema

/-- Whether what criteria give for a column makes no clauses. The column is not given whole with a
blank value, and what it searches has no text, or it is a range column without two bounds, or
what it seeks for a partial match has no text, or there is a clause over a target with a
placeholder of its own. -/
def IsFaulty (s : Schema) (c : Entries Value) (column : String) : Prop :=
  let g := Criteria.givenIn s.boundOf? c column
  ∃ strategy, s.strategies.get? column = some strategy ∧ g.value.isBlank = false ∧
    ((∃ m, (s.target column).written = .error m) ∨
      (strategy.isRange = true ∧ g.sides? = none) ∨
      (strategy = .matchPartial ∧ ∃ m, g.value.written = .error m) ∨
      ('?' ∈ (s.target column).shown.toList ∧ strategy.rows (s.target column).shown g ≠ []))

/-- The table finds a defect of a column exactly when it is faulty. -/
theorem defect?_isSome_iff {s : Schema} {c : Entries Value} {column : String} :
    (s.defect? column (Criteria.givenIn s.boundOf? c column)).isSome ↔ s.IsFaulty c column := by
  unfold defect? IsFaulty
  cases hst : s.strategies.get? column with
  | none => simp
  | some strategy =>
    simp only [Option.bind_some, Option.some.injEq, exists_eq_left']
    generalize Criteria.givenIn s.boundOf? c column = g
    unfold Strategy.defect?
    cases hb : g.value.isBlank with
    | true => simp
    | false =>
      simp only [Bool.false_eq_true, if_false, true_and]
      cases hw : (s.target column).written with
      | error m => simp
      | ok t =>
        rw [shown_of_written hw, Option.isSome_or, Bool.or_eq_true,
          Strategy.valueDefect?_isSome_iff, Strategy.targetDefect?_isSome_iff]
        simp [or_assoc]

/-- There is a defect exactly when a mentioned column is faulty. -/
theorem defectIn?_isSome_iff {s : Schema} {c : Entries Value} :
    (s.defectIn? c).isSome ↔ ∃ column ∈ Criteria.columns s.boundOf? c, s.IsFaulty c column := by
  rw [defectIn?, List.findSome?_isSome_iff]
  simp only [defect?_isSome_iff]

/-- Why a column is refused that is given in two ways is not why a value is refused that is no pair,
as it has a reason of its own. -/
theorem givenTwice_ne_noPair (kind column other : String) (strategy : Strategy) (v w : Value) :
    givenTwice kind column v ≠ noPair other strategy w := by
  intro h
  simp only [givenTwice, noPair, Cause.invalidRange.injEq, reduceCtorEq, and_false] at h

/-- A defect is told apart from a column that is given in two ways and from an unknown name. -/
theorem ne_of_defectIn? {s : Schema} {c : Entries Value} {f : Failure}
    (h : s.defectIn? c = some f) :
    (∀ kind column v, f ≠ .fault (.ofCause (givenTwice kind column v))) ∧
      ∀ name, f ≠ unknownFailure name := by
  obtain ⟨column, -, hdef⟩ := List.exists_of_findSome?_eq_some h
  obtain ⟨strategy, -, hdef⟩ := Option.bind_eq_some_iff.1 hdef
  rcases Strategy.eq_of_defect? hdef with ⟨m, rfl⟩ | rfl
  · refine ⟨fun _ _ _ he => ?_, fun _ he => ?_⟩
    · cases he
    · cases he
  · refine ⟨fun kind other v he => ?_, fun _ he => ?_⟩
    · have hcause := congrArg Fault.cause (Failure.fault.inj he)
      exact givenTwice_ne_noPair kind other column strategy v _ hcause.symm
    · cases he

/-- A mixed column that is refused as such is told by its refusal. -/
theorem of_mixedFailure {kind column other : String} {strategy : Strategy} {v w : Value}
    (h : mixedFailure other strategy w = .fault (.ofCause (givenTwice kind column v))) :
    kind = strategy.name ∧ column = other ∧ v = w := by
  obtain ⟨-, hcause⟩ := Failure.showing_eq_fault_iff.1 h
  have hsame := congrArg Fault.cause hcause
  simp only [Fault.ofCause, givenTwice, Cause.invalidRange.injEq, Value.text.injEq] at hsame
  exact ⟨hsame.2.1, hsame.1, hsame.2.2.1⟩

/-- Compiling criteria with distinct names without a further condition: if a column is given whole
and split, such a column is refused with the value under its own name, as far as the value has a
literal form to show, and none is refused so unless it is. Else the first unknown name is refused
exactly when there is one; else the call fails exactly when a mentioned column is faulty, with the
defect of the first that is. -/
theorem compile_eq_error_iff (s : Schema) (c : Entries Value) (hc : c.names.Nodup) :
    ((∃ column, Criteria.IsMixed s.boundOf? c column) →
      ∃ column strategy v, Criteria.IsMixed s.boundOf? c column ∧
        s.ranges.get? column = some strategy ∧ c.get? column = some v ∧
        s.compile (.ofEntries c) .null =
          .error (.showing (givenTwice strategy.name column v) v.literal)) ∧
    (∀ kind column v,
      s.compile (.ofEntries c) .null = .error (.fault (.ofCause (givenTwice kind column v))) →
      Criteria.IsMixed s.boundOf? c column ∧ c.get? column = some v ∧
        ∃ strategy, s.ranges.get? column = some strategy ∧ kind = strategy.name) ∧
    ((∀ column, ¬Criteria.IsMixed s.boundOf? c column) →
      (∀ name, s.compile (.ofEntries c) .null = .error (unknownFailure name) ↔
        s.unknown? c = some name) ∧
      (s.unknown? c = none →
        ((∃ f, s.compile (.ofEntries c) .null = .error f) ↔
          ∃ column ∈ Criteria.columns s.boundOf? c, s.IsFaulty c column) ∧
        ∀ f, s.compile (.ofEntries c) .null = .error f ↔ s.defectIn? c = some f)) := by
  rcases s.compile_cases c hc with ⟨column, strategy, v, hm, hr, hv, herr⟩ | ⟨hnone, hout⟩
  · -- A column is mixed, and nothing else is looked at.
    refine ⟨fun _ => ⟨column, strategy, v, hm, hr, hv, herr⟩, ?_, ?_⟩
    · intro kind other w h
      obtain ⟨rfl, rfl, rfl⟩ := of_mixedFailure (Except.error.inj (herr.symm.trans h))
      exact ⟨hm, hv, strategy, hr, rfl⟩
    · intro hnone
      exact absurd hm (hnone column)
  · refine ⟨fun ⟨other, hm⟩ => absurd hm (hnone other), ?_, ?_⟩
    · -- Neither an unknown name nor a defect is refused the way a mixed column is.
      intro kind other w h
      rw [h] at hout
      split at hout
      · cases Except.error.inj hout
      · rename_i hdef
        exact absurd (Except.error.inj hout).symm ((ne_of_defectIn? hdef).1 _ _ _)
      · obtain ⟨_, hok, -⟩ := hout
        cases hok
    · -- With no mixed column there are an unknown name, a defect, or clauses, in this order.
      intro _
      rw [← defectIn?_isSome_iff, Option.isSome_iff_exists]
      cases hu : s.unknown? c with
      | some name =>
        rw [hu] at hout
        have herr : s.compile (.ofEntries c) .null = .error (unknownFailure name) := hout
        simp [herr, unknownFailure, Fault.ofCause]
      | none => cases hdef : s.defectIn? c with
        | some f =>
          rw [hu, hdef] at hout
          have herr : s.compile (.ofEntries c) .null = .error f := hout
          have hne := (ne_of_defectIn? hdef).2
          simp [herr, hne]
        | none =>
          rw [hu, hdef] at hout
          obtain ⟨cs, hok, -⟩ := hout
          simp [hok]

/-- Criteria with an unknown name, a range column without bounds, and a mixed column. -/
def mixedCriteria : Entries Value :=
  [("shoe", .text " "), ("age", .int 3), ("seen_to", .int 9), ("seen", .null)]

/-- Criteria with a range column without bounds and an unknown name whose value is blank. -/
def unknownCriteria : Entries Value :=
  [("age", .int 3), ("shoe", .text " "), ("name", .int 1)]

/-- A mixed column comes before an unknown name, and an unknown name before a faulty column. -/
theorem people_compile_eq_error :
    (mixedCriteria.names.Nodup ∧ Criteria.IsMixed people.boundOf? mixedCriteria "seen" ∧
      ∃ column strategy v, Criteria.IsMixed people.boundOf? mixedCriteria column ∧
        people.ranges.get? column = some strategy ∧ mixedCriteria.get? column = some v ∧
        people.compile (.ofEntries mixedCriteria) .null =
          .error (.showing (givenTwice strategy.name column v) v.literal)) ∧
    unknownCriteria.names.Nodup ∧
      (∀ column, ¬Criteria.IsMixed people.boundOf? unknownCriteria column) ∧
      people.compile (.ofEntries unknownCriteria) .null = .error (unknownFailure "shoe") := by
  have hmixed : mixedCriteria.names.Nodup := by decide
  have hunknown : unknownCriteria.names.Nodup := by decide
  have hseen : Criteria.IsMixed people.boundOf? mixedCriteria "seen" :=
    ⟨by decide, "seen_to", by decide, .high, by decide⟩
  have hnone : ∀ column, ¬Criteria.IsMixed people.boundOf? unknownCriteria column := by
    rintro column ⟨-, key, hk, side, hb⟩
    have hno : ∀ key ∈ unknownCriteria.names, people.boundOf? key = none := by decide
    rw [hno key hk] at hb
    cases hb
  have hfirst : people.unknown? unknownCriteria = some "shoe" := by decide
  exact ⟨⟨hmixed, hseen, (compile_eq_error_iff people mixedCriteria hmixed).1 ⟨"seen", hseen⟩⟩,
    hunknown, hnone,
    (((compile_eq_error_iff people unknownCriteria hunknown).2.2 hnone).1 "shoe").2 hfirst⟩

/-- An error whose text cannot be written, for it would show a map with a tuple for a key. -/
def wordless : ErrorView :=
  ⟨"UnknownSearchColumnError", "mp_search.kernel.errors.query.UnknownSearchColumnError",
    .ok ("UnknownSearchColumnError(code='unknown_search_column', " ++
      "message='Unknown column \"\x7b(1,): 2\x7d\" in settings')"), .error (.key "tuple")⟩

/-- Criteria in which such an error is sought for a partial match. -/
def wordlessCriteria : Entries Value :=
  [("name", .error 0 wordless)]

/-- Neither a range column without two bounds nor a clause over a target with a placeholder is
needed for a call to fail in which no column is mixed and no name unknown. -/
theorem wordless_unlisted : ¬∀ (s : Schema) (c : Entries Value),
    (∀ e ∈ s.aliases, e.2.text?.isSome = true) → c.names.Nodup →
    (∀ column, ¬Criteria.IsMixed s.boundOf? c column) → s.unknown? c = none →
    ((∃ f, s.compile (.ofEntries c) .null = .error f) ↔
      ∃ column ∈ Criteria.columns s.boundOf? c,
        let g := Criteria.givenIn s.boundOf? c column
        ∃ strategy, s.strategies.get? column = some strategy ∧ g.value.isBlank = false ∧
          (strategy.isRange = true ∧ g.sides? = none ∨
            '?' ∈ (s.target column).shown.toList ∧
              strategy.rows (s.target column).shown g ≠ [])) := by
  intro h
  have hnone : ∀ column, ¬Criteria.IsMixed people.boundOf? wordlessCriteria column := by
    rintro column ⟨-, key, hk, side, hb⟩
    have hno : ∀ key ∈ wordlessCriteria.names, people.boundOf? key = none := by decide
    rw [hno key hk] at hb
    cases hb
  have hfails : people.compile (.ofEntries wordlessCriteria) .null =
      .error (.misuse (.unwritable (.key "tuple"))) := by rfl
  obtain ⟨column, hcolumn, strategy, hstrategy, -, hcase⟩ :=
    (h people wordlessCriteria (by decide) (by decide) hnone (by decide)).1 ⟨_, hfails⟩
  -- The only column is no range, and its target has no placeholder.
  have hname : Criteria.columns people.boundOf? wordlessCriteria = ["name"] := by decide
  rw [hname, List.mem_singleton] at hcolumn
  subst hcolumn
  obtain rfl : Strategy.matchPartial = strategy := Option.some.inj hstrategy
  rcases hcase with ⟨hrange, -⟩ | ⟨hmark, -⟩
  · cases hrange
  · exact absurd hmark (by decide)

end Schema

end Searchable
