import Searchable.Proofs.Schema.Single

/-!
# The names that a request may use

`Schema.requestNames` lists two names for a range column and one for any other, and gathering splits
names of the same form. `mem_requestNames_iff` ties the two together: a name is listed exactly when
it is that of a bound or of a column that is no range. A listed name is thus never refused, and a
range column is never given whole under one (`isSome_boundOf?_of_mem_requestNames`), so that it is
not mixed and never lacks its bounds. What is left to go wrong is in the targets of the schema and
in values without a text (`Flaw`). `requestNames_accepted` puts this together.
-/

namespace Searchable

/-- Whether a failure is a refusal of a kind. -/
def Failure.IsOf (f : Failure) (k : Kind) : Prop :=
  ∃ x : Fault, f = .fault x ∧ x.cause.kind.isA k = true

namespace Schema

variable {s : Schema} {c : Entries Value} {name column : String}

/-- A name is that of a bound exactly when it is made of a range column and an ending. -/
theorem isSome_boundOf?_iff : (s.boundOf? name).isSome = true ↔
    ∃ column, ∃ side : Side, column ≠ "" ∧ s.ranges.contains column = true ∧
      name = column ++ side.ending := by
  rw [boundOf?, Entries.get?_isSome_iff]
  constructor
  · intro h
    obtain ⟨⟨_, column, side⟩, he, rfl⟩ := List.mem_map.1 h
    exact ⟨column, side, mem_boundNames.1 he⟩
  · rintro ⟨column, side, h⟩
    exact List.mem_map.2 ⟨_, mem_boundNames.2 h, rfl⟩

/-- A name is listed exactly when it is that of a bound or of a column that is no range. -/
theorem mem_requestNames_iff (hnamed : ∀ column ∈ s.ranges.names, column ≠ "") :
    name ∈ s.requestNames ↔ (s.boundOf? name).isSome = true ∨
      ∃ strategy, (name, strategy) ∈ s.strategies ∧ strategy.isRange = false := by
  rw [isSome_boundOf?_iff, requestNames, List.mem_flatMap]
  constructor
  · rintro ⟨⟨column, strategy⟩, he, hname⟩
    cases hr : strategy.isRange with
    | false =>
      obtain rfl : name = column := by simpa [namesOf, hr] using hname
      exact .inr ⟨strategy, he, hr⟩
    | true =>
      left
      have hcontains : s.ranges.contains column = true := contains_ranges_iff.2 ⟨strategy, he, hr⟩
      have hcolumn : column ≠ "" := hnamed column (Entries.contains_iff.1 hcontains)
      rcases (by simpa [namesOf, hr] using hname :
        name = column ++ lowEnding ∨ name = column ++ highEnding) with rfl | rfl
      · exact ⟨column, .low, hcolumn, hcontains, rfl⟩
      · exact ⟨column, .high, hcolumn, hcontains, rfl⟩
  · rintro (⟨column, side, -, hcontains, rfl⟩ | ⟨strategy, he, hr⟩)
    · obtain ⟨strategy, he, hr⟩ := contains_ranges_iff.1 hcontains
      refine ⟨_, he, ?_⟩
      cases side <;> simp [namesOf, hr, Side.ending]
    · exact ⟨_, he, by simp [namesOf, hr]⟩

/-- A range column is listed under its own name only if that is the name of a bound. -/
theorem isSome_boundOf?_of_mem_requestNames (hd : s.strategies.names.Nodup)
    (hnamed : ∀ column ∈ s.ranges.names, column ≠ "") (hrange : s.ranges.contains column = true)
    (hlisted : column ∈ s.requestNames) : (s.boundOf? column).isSome = true := by
  rcases (mem_requestNames_iff hnamed).1 hlisted with hbound | ⟨strategy, he, hr⟩
  · exact hbound
  · -- A column is declared once, so that it is not both a range and none.
    rw [isRange_of_ranges hd hrange (Entries.get?_of_mem hd he)] at hr
    cases hr

/-- What may go wrong with criteria whose names are all listed. -/
inductive Flaw (s : Schema) (c : Entries Value) : Failure → Prop where
  /-- The target of a column that is mentioned has a placeholder of its own. -/
  | marked {column target text : String} (hm : column ∈ Criteria.columns s.boundOf? c)
    (ht : (s.target column).written = .ok target) (hmark : '?' ∈ target.toList) :
    Flaw s c (.misuse (.clauseArity text (placeholders target + 1) 1))
  /-- The target of a column that is mentioned has no text. -/
  | target {column : String} {m : Misuse} (hm : column ∈ Criteria.columns s.boundOf? c)
    (ht : (s.target column).written = .error m) : Flaw s c (.misuse m)
  /-- What is sought for a partial match has no text. -/
  | sought {column : String} {v : Value} {m : Misuse}
    (hs : s.strategies.get? column = some .matchPartial) (hv : c.get? column = some v)
    (hw : v.written = .error m) : Flaw s c (.misuse m)

/-- A flaw is no refusal. -/
theorem Flaw.not_isOf {f : Failure} (h : Flaw s c f) (k : Kind) : ¬f.IsOf k := by
  rintro ⟨x, rfl, -⟩
  cases h

/-- A value that is given under a column's own name is found there. -/
theorem get?_of_wholeIn? {v : Value} (h : Criteria.wholeIn? s.boundOf? c column = some v) :
    c.get? column = some v := by
  unfold Criteria.wholeIn? at h
  split at h
  · cases h
  · exact h

/-- What is wrong with the value of a column is a flaw, if the bounds of a range and of nothing else
are given one by one. -/
theorem flaw_of_valueDefect? {strategy : Strategy} {f : Failure}
    (hs : s.strategies.get? column = some strategy)
    (hgiven : Criteria.wholeIn? s.boundOf? c column = none ↔ strategy.isRange = true)
    (h : strategy.valueDefect? column (Criteria.givenIn s.boundOf? c column) = some f) :
    Flaw s c f := by
  cases strategy with
  | matchFull | including => cases h
  | closedRange | openRange =>
    rw [Criteria.givenIn, hgiven.2 rfl] at h
    cases h
  | matchPartial =>
    unfold Criteria.givenIn at h
    cases hw : Criteria.wholeIn? s.boundOf? c column with
    | none => cases hgiven.1 hw
    | some v =>
      rw [hw] at h
      simp only [Strategy.valueDefect?, Given.value] at h
      split at h
      · cases h
      · rename_i hunwritten
        obtain rfl := Option.some.inj h
        exact .sought hs (get?_of_wholeIn? hw) hunwritten

/-- What is wrong with a column that is mentioned is a flaw, if the bounds of a range and of nothing
else are given one by one. -/
theorem flaw_of_defect? {f : Failure} (hm : column ∈ Criteria.columns s.boundOf? c)
    (hgiven : ∀ strategy, s.strategies.get? column = some strategy →
      (Criteria.wholeIn? s.boundOf? c column = none ↔ strategy.isRange = true))
    (h : s.defect? column (Criteria.givenIn s.boundOf? c column) = some f) : Flaw s c f := by
  obtain ⟨strategy, hs, h⟩ := Option.bind_eq_some_iff.1 h
  unfold Strategy.defect? at h
  split at h
  · cases h
  · cases ht : (s.target column).written with
    | error m =>
      rw [ht] at h
      obtain rfl := Option.some.inj h
      exact .target hm ht
    | ok target =>
      rw [ht] at h
      rcases Option.or_eq_some_iff.1 h with hvalue | ⟨-, htarget⟩
      · exact flaw_of_valueDefect? hs (hgiven strategy hs) hvalue
      · unfold Strategy.targetDefect? at htarget
        split at htarget
        · rename_i hmark
          obtain ⟨r, -, rfl⟩ := Option.map_eq_some_iff.1 htarget
          exact .marked hm ht hmark
        · cases htarget

/-- The column that a name mentions is declared, unless the name is neither listed nor that of a
declared column. -/
theorem contains_mention_iff (hnamed : ∀ column ∈ s.ranges.names, column ≠ "") (v : Value) :
    s.strategies.contains (s.mention name v).1 = true ↔
      name ∈ s.requestNames ∨ name ∈ s.strategies.names := by
  rw [mem_requestNames_iff hnamed]
  unfold mention
  cases hb : s.boundOf? name with
  | none =>
    simp only [Entries.contains_iff, Option.isSome_none, Bool.false_eq_true, false_or]
    refine ⟨.inr, ?_⟩
    rintro (⟨strategy, he, -⟩ | h)
    · exact List.mem_map_of_mem he
    · exact h
  | some p =>
    obtain ⟨column, side⟩ := p
    have hdeclared : s.strategies.contains column = true :=
      contains_of_ranges (of_boundOf? hb).2.1
    simp [hdeclared]

/-- A single entry is refused as unknown exactly when its name is neither listed nor that of a
declared column. -/
theorem unknown_single_iff (hnamed : ∀ column ∈ s.ranges.names, column ≠ "") (name : String)
    (v : Value) :
    (∃ f, s.compile (.ofEntries [(name, v)]) .null = .error f ∧ f.IsOf .unknownSearchColumn) ↔
      name ∉ s.requestNames ∧ name ∉ s.strategies.names := by
  have hsingle := s.compile_single name v
  rw [← not_or, ← contains_mention_iff hnamed v]
  cases hd : s.strategies.contains (s.mention name v).1 with
  | false =>
    rw [hd, if_neg Bool.false_ne_true] at hsingle
    simp only [Bool.false_eq_true, not_false_eq_true, iff_true]
    exact ⟨_, hsingle, _, rfl, rfl⟩
  | true =>
    rw [hd, if_pos rfl] at hsingle
    simp only [not_true_eq_false, iff_false]
    rintro ⟨f, hf, x, rfl, hx⟩
    rw [hf] at hsingle
    split at hsingle
    · rename_i hdefect
      obtain rfl := Except.error.inj hsingle
      obtain ⟨strategy, -, hdefect⟩ := Option.bind_eq_some_iff.1 hdefect
      rcases Strategy.eq_of_defect? hdefect with ⟨m, hm⟩ | hrange
      · cases hm
      · obtain rfl := Failure.fault.inj hrange
        have hkind : Kind.invalidRange.isA .unknownSearchColumn = true := hx
        revert hkind
        decide
    · obtain ⟨_, hok, -⟩ := hsingle
      cases hok

section Listed

variable (hd : s.strategies.names.Nodup) (hnamed : ∀ column ∈ s.ranges.names, column ≠ "")
  (hlisted : ∀ key ∈ c.names, key ∈ s.requestNames)

include hd hnamed hlisted

/-- Under listed names a range column is not given whole. -/
theorem wholeIn?_of_range (hrange : s.ranges.contains column = true) :
    Criteria.wholeIn? s.boundOf? c column = none := by
  unfold Criteria.wholeIn?
  split
  · rfl
  · rename_i hfree
    rw [Entries.get?_eq_none_iff]
    intro hmem
    exact hfree (isSome_boundOf?_of_mem_requestNames hd hnamed hrange (hlisted column hmem))

/-- Under listed names a column that is mentioned is not given whole exactly if it is a range. -/
theorem wholeIn?_eq_none_iff {strategy : Strategy} (hm : column ∈ Criteria.columns s.boundOf? c)
    (hs : s.strategies.get? column = some strategy) :
    Criteria.wholeIn? s.boundOf? c column = none ↔ strategy.isRange = true := by
  constructor
  · intro hw
    obtain ⟨name, -, side, hb⟩ := Criteria.exists_bound hm hw
    exact isRange_of_ranges hd (of_boundOf? hb).2.1 hs
  · intro hr
    exact wholeIn?_of_range hd hnamed hlisted
      (contains_ranges_iff.2 ⟨strategy, Entries.mem_of_get? hs, hr⟩)

/-- Under listed names no column is mixed. -/
theorem not_isMixed_of_listed (column : String) : ¬Criteria.IsMixed s.boundOf? c column := by
  intro hmixed
  obtain ⟨⟨strategy, hrange⟩, -⟩ := exists_of_isMixed hmixed
  have hwhole := hmixed.1
  rw [wholeIn?_of_range hd hnamed hlisted (Entries.contains_of_get? hrange)] at hwhole
  cases hwhole

omit hd in
/-- No listed name is unknown. -/
theorem unknown?_of_listed : s.unknown? c = none := by
  rw [unknown?, List.find?_eq_none]
  intro name hname
  rcases (mem_requestNames_iff hnamed).1 (hlisted name hname) with hbound | ⟨strategy, he, -⟩
  · simp [Option.isSome_iff_ne_none.1 hbound]
  · have hdeclared : s.strategies.contains name = true :=
      Entries.contains_iff.2 (List.mem_map_of_mem he)
    simp [hdeclared]

/-- Criteria whose names are all listed fail with flaws only. -/
theorem flaw_of_listed (hc : c.names.Nodup) {f : Failure}
    (hf : s.compile (.ofEntries c) .null = .error f) : Flaw s c f := by
  rcases s.compile_cases c hc with ⟨column, _, _, hmixed, -⟩ | ⟨-, hout⟩
  · exact absurd hmixed (not_isMixed_of_listed hd hnamed hlisted column)
  · rw [unknown?_of_listed hnamed hlisted, hf] at hout
    cases hdefect : s.defectIn? c with
    | some f' =>
      rw [hdefect] at hout
      obtain rfl : f = f' := Except.error.inj hout
      obtain ⟨column, hm, hcolumn⟩ := List.exists_of_findSome?_eq_some hdefect
      exact flaw_of_defect? hm (fun _ => wholeIn?_eq_none_iff hd hnamed hlisted hm) hcolumn
    | none =>
      rw [hdefect] at hout
      obtain ⟨_, hok, -⟩ := hout
      cases hok

end Listed

/-- A name is refused as unknown exactly when it is neither listed nor that of a declared column,
whatever its value. Criteria whose names are all listed are never refused: they fail only because a
target has a placeholder or no text, or a value that is sought for a partial match has none. -/
theorem requestNames_accepted (s : Schema) (hd : s.strategies.names.Nodup)
    (hnamed : ∀ column ∈ s.ranges.names, column ≠ "") :
    (∀ name v,
      (∃ f, s.compile (.ofEntries [(name, v)]) .null = .error f ∧ f.IsOf .unknownSearchColumn) ↔
        name ∉ s.requestNames ∧ name ∉ s.strategies.names) ∧
    ∀ c : Entries Value, c.names.Nodup → (∀ name ∈ c.names, name ∈ s.requestNames) →
      ∀ f, s.compile (.ofEntries c) .null = .error f → ¬f.IsOf .search ∧ Flaw s c f := by
  refine ⟨unknown_single_iff hnamed, fun c hc hlisted f hf => ?_⟩
  have hflaw : Flaw s c f := flaw_of_listed hd hnamed hlisted hc hf
  exact ⟨hflaw.not_isOf .search, hflaw⟩

/-- A schema in which the expression for a column has a placeholder of its own. -/
def guarded : Schema :=
  ⟨"Person", [("age", .openRange), ("name", .matchPartial)], [], .null,
    [("name", .text "coalesce(name, ?)")], .text "find_all"⟩

/-- Criteria whose names are all listed. -/
def guardedCriteria : Entries Value :=
  [("age_to", .int 9), ("name", .text "Tom"), ("age_from", .null)]

/-- A name that is not declared is refused, and listed names come as far as the placeholder. -/
theorem guarded_requestNames_accepted :
    guarded.strategies.names.Nodup ∧ (∀ column ∈ guarded.ranges.names, column ≠ "") ∧
      (∃ f, guarded.compile (.ofEntries [("shoe", .null)]) .null = .error f ∧
        f.IsOf .unknownSearchColumn) ∧
      ∃ f, guarded.compile (.ofEntries guardedCriteria) .null = .error f ∧
        ¬f.IsOf .search ∧ Flaw guarded guardedCriteria f := by
  have hd : guarded.strategies.names.Nodup := by decide
  have hnamed : ∀ column ∈ guarded.ranges.names, column ≠ "" := by decide
  have hshoe : "shoe" ∉ guarded.requestNames ∧ "shoe" ∉ guarded.strategies.names := by decide
  have hdistinct : guardedCriteria.names.Nodup := by decide
  have hlisted : ∀ name ∈ guardedCriteria.names, name ∈ guarded.requestNames := by decide
  have hfails : guarded.compile (.ofEntries guardedCriteria) .null =
      .error (.misuse (.clauseArity "(coalesce(name, ?)) LIKE ?" 2 1)) := by rfl
  exact ⟨hd, hnamed, ((requestNames_accepted guarded hd hnamed).1 "shoe" .null).2 hshoe, _, hfails,
    (requestNames_accepted guarded hd hnamed).2 guardedCriteria hdistinct hlisted _ hfails⟩

/-- A partial match with an error that has no text fails, though the target has a text without a
placeholder. -/
theorem wordless_fails :
    people.strategies.names.Nodup ∧ (∀ column ∈ people.ranges.names, column ≠ "") ∧
      "name" ∈ people.requestNames ∧
      (people.target "name").written = .ok "u.name" ∧ '?' ∉ "u.name".toList ∧
      people.compile (.ofEntries [("name", .error 0 wordless)]) .null =
        .error (.misuse (.unwritable (.key "tuple"))) ∧
      ∀ text expected found,
        Misuse.unwritable (.key "tuple") ≠ .clauseArity text expected found := by
  refine ⟨by decide, by decide, by decide, rfl, by decide, by rfl, fun _ _ _ h => ?_⟩
  cases h

end Schema

end Searchable
