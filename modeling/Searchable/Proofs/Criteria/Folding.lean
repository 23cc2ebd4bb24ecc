import Searchable.Proofs.Criteria.Reading
import Searchable.Proofs.Fault.Showing
import Searchable.Proofs.Text.Numerals

/-!
# What folding comes to

`Criteria.fold` for criteria under names, measured by what the names mean one by one. A name bounds
a column if it is made of it and one of the two endings, and the bounds of the column may be given
one by one (`Bounds`); a name that bounds none is a column's own (`IsFree`). That a column is given
twice, and what is given for each column otherwise, is said here in these terms only
(`IsGivenTwice`, `IsFolded`).

`fold_spec` follows from the reading of `gatherAll_reads`, because the splitting that it reads the
criteria with means the same (`splitAmong?_eq_bound_iff`): each fact about a name there is one here.
-/

namespace Searchable

/-- Why a column of some kind is refused that is given whole and by a bound. -/
def givenTwice (kind column : String) (v : Value) : Cause :=
  .invalidRange (.text column) (.text kind) v
    (.text (kind ++ " column [" ++ column ++ "] given both as a pair and as _from/_to keys"))

/-- A text that goes on counts as true. -/
theorem isTrue_text_append (a b : String) (h : b ≠ "") : (Value.text (a ++ b)).isTrue = true := by
  have hne : a ++ b ≠ "" := by
    intro he
    have hl := congrArg String.toList he
    rw [String.toList_append] at hl
    exact h (String.toList_inj.1 (List.append_eq_nil_iff.1 hl).2)
  simpa [Value.isTrue] using hne

/-- The refusal shows the literal form of the value under the column's own name, and for its reason
no other form. -/
theorem ofCause_givenTwice (kind column : String) (v : Value) :
    Failure.ofCause (givenTwice kind column v) =
      .showing (givenTwice kind column v) v.literal := by
  refine Failure.ofCause_eq_showing [] ?_
  rw [givenTwice, Cause.shownForms, isTrue_text_append _ _ (by decide), if_pos rfl]
  rfl

namespace Criteria

section Meaning

variable (ranges : Option (Entries Strategy))

/-- Whether a name bounds a column on a side: it is made of the column and the side's ending, and
the column's bounds may be given one by one. Without `ranges` those of every column may. -/
structure Bounds (name column : String) (side : Side) : Prop where
  /-- The column has a name. -/
  nonempty : column ≠ ""
  /-- The column is among those whose bounds may be given one by one. -/
  known : ∀ known ∈ ranges, column ∈ Entries.names known
  /-- The name is made of the column and the ending. -/
  made : name = column ++ side.ending

/-- Whether a name bounds no column. -/
def IsFree (name : String) : Prop :=
  ∀ column side, ¬Bounds ranges name column side

/-- The column that a name mentions: the one that it bounds, or that of its own name. -/
inductive Mentions (name : String) : String → Prop where
  /-- It bounds no column. -/
  | whole (hfree : IsFree ranges name) : Mentions name name
  /-- It bounds a column. -/
  | bound {column : String} {side : Side} (h : Bounds ranges name column side) :
    Mentions name column

/-- Whether a column is given under its own name and by a bound. -/
def IsGivenTwice (c : Entries Value) (column : String) : Prop :=
  column ∈ c.names ∧ IsFree ranges column ∧
    ∃ name ∈ c.names, ∃ side, Bounds ranges name column side

/-- The kind of a column that is given twice: the name of the strategy that it is declared with, or
`range` if no columns are declared. -/
inductive IsOfKind (column : String) : Option (Entries Strategy) → String → Prop where
  /-- The column is declared. -/
  | declared {known : Entries Strategy} {strategy : Strategy}
      (h : known.get? column = some strategy) : IsOfKind column (some known) strategy.name
  /-- No columns are declared. -/
  | undeclared : IsOfKind column none "range"

/-- Whether columns have what the criteria give for them. -/
structure IsFolded (c : Entries Value) (es : Entries Mention) : Prop where
  /-- The columns are those that the names mention, in the order of first mention. -/
  names : ∃ columns, List.Forall₂ (Mentions ranges) c.names columns ∧
    es.names = columns.eraseDups
  /-- No column is listed twice. -/
  nodup : es.names.Nodup
  /-- A name that bounds no column keeps its value. -/
  whole : ∀ name v, IsFree ranges name → c.get? name = some v →
    es.get? name = some ⟨.text name, .whole v⟩
  /-- A column that a name bounds has the values under the names of its two bounds. -/
  split : ∀ name ∈ c.names, ∀ column side, Bounds ranges name column side →
    es.get? column = some ⟨.text column, .bounds (boundIn c column .low) (boundIn c column .high)⟩

end Meaning

section Agreement

variable {ranges : Option (Entries Strategy)} {c : Entries Value} {name column : String}

/-- Whether the bounds of a column may be given one by one, as folding decides it. -/
def mayBeSplit : Option (Entries Strategy) → String → Bool
  | some known => known.contains
  | none => fun _ => true

/-- Folding gathers with that decision. -/
theorem fold_eq (ranges : Option (Entries Strategy)) (c : Criteria) :
    fold ranges c =
      (gatherAll (mayBeSplit ranges) [] c).mapError (failureOf (ranges.getD []) c) := by
  cases ranges <;> rfl

/-- Names are split into a column and a side exactly where they bound the column on it. -/
theorem splitAmong?_eq_bound_iff {side : Side} :
    splitAmong? (mayBeSplit ranges) name = some (column, side) ↔
      Bounds ranges name column side := by
  have hknown : mayBeSplit ranges column = true ↔
      ∀ known ∈ ranges, column ∈ Entries.names known := by
    cases ranges with
    | none => simp [mayBeSplit]
    | some known => simp [mayBeSplit, Entries.contains_iff]
  rw [splitAmong?_eq_some_iff, hknown]
  exact ⟨fun ⟨hne, hk, hm⟩ => ⟨hne, hk, hm⟩, fun ⟨hne, hk, hm⟩ => ⟨hne, hk, hm⟩⟩

/-- Names are not split exactly where they bound no column. -/
theorem splitAmong?_eq_none_iff :
    splitAmong? (mayBeSplit ranges) name = none ↔ IsFree ranges name := by
  rw [Option.eq_none_iff_forall_ne_some, Prod.forall]
  simp only [ne_eq, splitAmong?_eq_bound_iff, IsFree]

/-- A name mentions the column that it is taken to, and no other. -/
theorem mentions_iff :
    Mentions ranges name column ↔ columnOf (splitAmong? (mayBeSplit ranges)) name = column := by
  constructor
  · intro h
    cases h with
    | whole hfree => exact columnOf_of_whole (splitAmong?_eq_none_iff.2 hfree)
    | bound h => exact columnOf_of_bound (splitAmong?_eq_bound_iff.2 h)
  · rintro rfl
    cases hsplit : splitAmong? (mayBeSplit ranges) name with
    | none =>
      rw [columnOf_of_whole hsplit]
      exact .whole (splitAmong?_eq_none_iff.1 hsplit)
    | some bound =>
      rw [columnOf_of_bound hsplit]
      exact .bound (splitAmong?_eq_bound_iff.1 hsplit)

/-- The columns that names mention one by one are those that they are taken to. -/
theorem forall₂_mentions_iff {names columns : List String} :
    List.Forall₂ (Mentions ranges) names columns ↔
      names.map (columnOf (splitAmong? (mayBeSplit ranges))) = columns := by
  rw [← List.forall₂_eq_eq_eq, List.forall₂_map_left_iff]
  simp only [← mentions_iff]

/-- Columns are mixed exactly where they are given twice. -/
theorem isMixed_iff_isGivenTwice :
    IsMixed (splitAmong? (mayBeSplit ranges)) c column ↔ IsGivenTwice ranges c column := by
  simp only [IsMixed, IsGivenTwice, wholeIn?, splitAmong?_eq_bound_iff, ← and_assoc]
  refine and_congr_left' ?_
  rw [← splitAmong?_eq_none_iff, ← Entries.get?_isSome_iff]
  cases splitAmong? (mayBeSplit ranges) column <;> simp

/-- The reading of criteria without a column that is given twice is what they give. -/
theorem isFolded_reading (h : ∀ column, ¬IsGivenTwice ranges c column) :
    IsFolded ranges c (reading (splitAmong? (mayBeSplit ranges)) c) where
  names := ⟨_, forall₂_mentions_iff.2 rfl, by rw [reading, Entries.names_tabulate, columns]⟩
  nodup := by
    rw [reading, Entries.names_tabulate]
    exact nodup_eraseDups _
  whole name v hfree hv := by
    have hsplit := splitAmong?_eq_none_iff.2 hfree
    have hmem : name ∈ columns (splitAmong? (mayBeSplit ranges)) c :=
      mem_columns.2 ⟨name, Entries.get?_isSome_iff.1 (by rw [hv]; rfl), columnOf_of_whole hsplit⟩
    rw [reading, Entries.get?_tabulate, if_pos hmem, givenIn, wholeIn?, hsplit, hv]
    rfl
  split name hname column side hbound := by
    have hmem : column ∈ columns (splitAmong? (mayBeSplit ranges)) c :=
      mem_columns.2 ⟨name, hname, columnOf_of_bound (splitAmong?_eq_bound_iff.2 hbound)⟩
    -- A value under the column's own name would make it given twice.
    have hwhole : wholeIn? (splitAmong? (mayBeSplit ranges)) c column = none := by
      rw [← Option.not_isSome_iff_eq_none]
      exact fun hw => h column (isMixed_iff_isGivenTwice.1
        ⟨hw, name, hname, side, splitAmong?_eq_bound_iff.2 hbound⟩)
    rw [reading, Entries.get?_tabulate, if_pos hmem, givenIn, hwhole]

/-- A column that has both of what is given for it is given once. -/
theorem IsFolded.not_isGivenTwice {es : Entries Mention} (h : IsFolded ranges c es)
    (column : String) : ¬IsGivenTwice ranges c column := by
  rintro ⟨hown, hfree, name, hname, side, hbound⟩
  obtain ⟨v, hv⟩ := Option.isSome_iff_exists.1 (Entries.get?_isSome_iff.2 hown)
  have hboth := (h.whole column v hfree hv).symm.trans (h.split name hname column side hbound)
  simp at hboth

/-- What criteria give for columns is determined. -/
theorem IsFolded.unique {es fs : Entries Mention} (hes : IsFolded ranges c es)
    (hfs : IsFolded ranges c fs) : es = fs := by
  obtain ⟨columns, hcolumns, hnames⟩ := hes.names
  obtain ⟨others, hothers, hnames'⟩ := hfs.names
  obtain rfl : columns = others :=
    (forall₂_mentions_iff.1 hcolumns).symm.trans (forall₂_mentions_iff.1 hothers)
  -- Each column is one that a name mentions, and the name says what is given for it.
  refine Entries.eq_of_get? (hnames.trans hnames'.symm) hes.nodup fun column hmem => ?_
  rw [hnames, List.mem_eraseDups, ← forall₂_mentions_iff.1 hcolumns, List.mem_map] at hmem
  obtain ⟨name, hname, hmentions⟩ := hmem
  cases mentions_iff.2 hmentions with
  | whole hfree =>
    obtain ⟨v, hv⟩ := Option.isSome_iff_exists.1 (Entries.get?_isSome_iff.2 hname)
    rw [hes.whole _ v hfree hv, hfs.whole _ v hfree hv]
  | bound hbound => rw [hes.split name hname _ _ hbound, hfs.split name hname _ _ hbound]

/-- The failure for the conflict of a column with a value under its own name. -/
theorem failureOf_conflict_eq (known : Entries Strategy) {v : Value} (hv : c.get? column = some v) :
    failureOf known (ofEntries c) (.conflict (.text column)) =
      .showing (givenTwice (((known.get? column).map Strategy.name).getD "range") column v)
        v.literal := by
  have hlookup : (Value.text column).text?.bind known.get? = known.get? column := rfl
  rw [← ofCause_givenTwice]
  simp only [failureOf, conflict, hlookup, find?_ofEntries, hv, Option.getD_some]
  cases known.get? column <;> rfl

/-- The failure names the kind of the column. -/
theorem failureOf_conflict_of_kind {kind : String} {v : Value} (hkind : IsOfKind column ranges kind)
    (hv : c.get? column = some v) :
    failureOf (ranges.getD []) (ofEntries c) (.conflict (.text column)) =
      .showing (givenTwice kind column v) v.literal := by
  rw [failureOf_conflict_eq _ hv]
  cases hkind with
  | declared h =>
    rw [Option.getD_some, h]
    rfl
  | undeclared => rfl

/-- A column that is given twice has a kind, and a value under its own name. -/
theorem IsGivenTwice.exists_kind (h : IsGivenTwice ranges c column) :
    (∃ kind, IsOfKind column ranges kind) ∧ ∃ v, c.get? column = some v := by
  obtain ⟨hown, -, name, -, side, hbound⟩ := h
  refine ⟨?_, Option.isSome_iff_exists.1 (Entries.get?_isSome_iff.2 hown)⟩
  cases ranges with
  | none => exact ⟨_, .undeclared⟩
  | some known =>
    obtain ⟨strategy, hs⟩ :=
      Option.isSome_iff_exists.1 (Entries.get?_isSome_iff.2 (hbound.known known rfl))
    exact ⟨_, .declared hs⟩

end Agreement

/-- Folding criteria with distinct names fails exactly if they give a column twice, and then refuses
such a column, by its kind and with the value under its own name, if the value has a literal form to
show. Otherwise its outcome is what they give for the columns. -/
theorem fold_spec (ranges : Option (Entries Strategy)) {c : Entries Value} (hc : c.names.Nodup) :
    ((∃ f, fold ranges (.ofEntries c) = .error f) ↔ ∃ column, IsGivenTwice ranges c column) ∧
      (∀ f, fold ranges (.ofEntries c) = .error f →
        ∃ column kind v, IsGivenTwice ranges c column ∧ IsOfKind column ranges kind ∧
          c.get? column = some v ∧ f = .showing (givenTwice kind column v) v.literal) ∧
      ∀ es, fold ranges (.ofEntries c) = .ok es ↔ IsFolded ranges c es := by
  rw [fold_eq]
  rcases gatherAll_reads (mayBeSplit ranges) c hc with ⟨hok, hnone⟩ | ⟨column, hmixed, herr⟩
  · have hnone : ∀ column, ¬IsGivenTwice ranges c column := fun column h =>
      hnone column (isMixed_iff_isGivenTwice.2 h)
    have hreading := isFolded_reading hnone
    rw [hok, mapError_ok]
    refine ⟨⟨?_, fun ⟨column, htwice⟩ => absurd htwice (hnone column)⟩, ?_, fun es => ⟨?_, ?_⟩⟩
    · rintro ⟨f, hf⟩
      cases hf
    · intro f hf
      cases hf
    · intro hes
      exact Except.ok.inj hes ▸ hreading
    · intro hes
      rw [hreading.unique hes]
  · have htwice : IsGivenTwice ranges c column := isMixed_iff_isGivenTwice.1 hmixed
    obtain ⟨⟨kind, hkind⟩, v, hv⟩ := htwice.exists_kind
    rw [herr, mapError_error, failureOf_conflict_of_kind hkind hv]
    refine ⟨⟨fun _ => ⟨column, htwice⟩, fun _ => ⟨_, rfl⟩⟩, ?_, fun es => ⟨?_, ?_⟩⟩
    · intro f hf
      exact ⟨column, kind, v, htwice, hkind, hv, (Except.error.inj hf).symm⟩
    · intro hes
      cases hes
    · -- What is given for the column would be a value and bounds at once.
      intro hes
      exact absurd htwice (hes.not_isGivenTwice column)

/-- Bounds under names with two endings, before and after other names. -/
def nested : Entries Value :=
  [("a_from_to", .int 1), ("b", .int 2), ("a_to", .int 3), ("a_from_from", .int 4), ("_to", .int 5)]

/-- What they give, where the bounds of every column may be given one by one. -/
def nestedColumns : Entries Mention :=
  [("a_from", ⟨.text "a_from", .bounds (.int 4) (.int 1)⟩), ("b", ⟨.text "b", .whole (.int 2)⟩),
    ("a", ⟨.text "a", .bounds .null (.int 3)⟩), ("_to", ⟨.text "_to", .whole (.int 5)⟩)]

/-- A name with two endings is folded under the name with one. -/
theorem nested_fold_spec :
    nested.names.Nodup ∧ fold none (.ofEntries nested) = .ok nestedColumns ∧
      IsFolded none nested nestedColumns :=
  ⟨by decide, rfl, ((fold_spec none (by decide)).2.2 _).1 rfl⟩

/-- Criteria that give a column whole and by a bound, and the whole by a number that is too long to
be shown. -/
def longWhole : Entries Value :=
  [("age", .int Text.Numeral.leastLong), ("age_from", .int 1)]

/-- Not every refusal of criteria that give a column twice names such a column, for one that cannot
show the value does not come about. -/
theorem longWhole_unnamed : ¬∀ c : Entries Value, c.names.Nodup →
    (∃ column, IsGivenTwice none c column) →
    ∃ column kind v,
      fold none (.ofEntries c) = .error (.fault (.ofCause (givenTwice kind column v))) := by
  intro h
  have hage : splitAmong? (mayBeSplit none) "age" = none := by decide
  have hbound : splitAmong? (mayBeSplit none) "age_from" = some ("age", .low) := by decide
  have htwice : IsGivenTwice none longWhole "age" :=
    ⟨by decide, splitAmong?_eq_none_iff.1 hage, "age_from", by decide, .low,
      splitAmong?_eq_bound_iff.1 hbound⟩
  have hgather : gatherAll (mayBeSplit none) [] (.ofEntries longWhole) =
      .error (.conflict (.text "age")) := rfl
  have hlong : (Value.int Text.Numeral.leastLong).literal = .error .longNumber := by
    rw [Value.literal, Value.wholeText, if_pos Text.Numeral.isLong_leastLong]
  have hfold : fold none (.ofEntries longWhole) = .error (.misuse (.unwritable .longNumber)) := by
    rw [fold_eq, hgather, mapError_error, failureOf_conflict_of_kind .undeclared rfl, hlong]
    rfl
  obtain ⟨column, kind, v, hnamed⟩ := h longWhole (by decide) ⟨"age", htwice⟩
  cases hfold.symm.trans hnamed

end Criteria

end Searchable
