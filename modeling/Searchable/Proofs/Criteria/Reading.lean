import Searchable.Proofs.Criteria.Gathering

/-!
# Criteria read entry by entry

`Criteria.fold` gathers the bounds of a column while it goes through the criteria. Here the same is
read off the criteria by look-ups: `columns` lists the columns in the order in which they are first
mentioned, and `givenIn` looks up what is given for a column under its own name or under the names
of its bounds. `IsMixed` says that a column is given in both ways.

`gatherAll_reads` ties the two together: gathering fails with the conflict of a column that is
mixed, or there is none and the outcome is the reading. The induction is on the criteria from the
end, for the reading of a prefix is the state in which the next criterion is gathered.
-/

namespace Searchable

namespace Criteria

section Reading

variable (bound? : String → Option (String × Side))

/-- The columns that criteria mention, in the order of first mention. -/
def columns (c : Entries Value) : List String :=
  (c.names.map (columnOf bound?)).eraseDups

/-- The value that is given under a column's own name, unless this is the name of a bound. -/
def wholeIn? (c : Entries Value) (column : String) : Option Value :=
  if (bound? column).isSome then none else c.get? column

/-- The value that is given under the name of a bound of a column; a missing one is nothing. -/
def boundIn (c : Entries Value) (column : String) (side : Side) : Value :=
  (c.get? (column ++ side.ending)).getD .null

/-- What is given for a column. -/
def givenIn (c : Entries Value) (column : String) : Given :=
  match wholeIn? bound? c column with
  | some v => .whole v
  | none => .bounds (boundIn c column .low) (boundIn c column .high)

/-- Whether a column is given under its own name and under that of a bound. -/
def IsMixed (c : Entries Value) (column : String) : Prop :=
  (wholeIn? bound? c column).isSome ∧ ∃ key ∈ c.names, ∃ side, bound? key = some (column, side)

/-- What is given for each column that criteria mention. -/
def reading (c : Entries Value) : Entries Mention :=
  Entries.tabulate (columns bound? c) fun column => ⟨.text column, givenIn bound? c column⟩

/-- Whether an outcome is the reading of criteria without mixed columns, or the conflict of a
column that is mixed. -/
def Reads (c : Entries Value) (outcome : Except Obstacle (Entries Mention)) : Prop :=
  (outcome = .ok (reading bound? c) ∧ ∀ column, ¬IsMixed bound? c column) ∨
    ∃ column, IsMixed bound? c column ∧ outcome = .error (.conflict (.text column))

end Reading

section Step

variable {isRange : String → Bool} {c : Entries Value} {key : String} {v : Value}

/-- A column is mentioned exactly when a name mentions it. -/
theorem mem_columns {bound? : String → Option (String × Side)} {column : String} :
    column ∈ columns bound? c ↔ ∃ k ∈ c.names, columnOf bound? k = column := by
  rw [columns, List.mem_eraseDups, List.mem_map]

/-- The columns after one more criterion. -/
theorem columns_concat (bound? : String → Option (String × Side)) (c : Entries Value)
    (key : String) (v : Value) :
    columns bound? (c ++ [(key, v)]) =
      if columnOf bound? key ∈ columns bound? c then columns bound? c
      else columns bound? c ++ [columnOf bound? key] := by
  have hn : Entries.names (c ++ [(key, v)]) = c.names ++ [key] := Entries.names_append _ _
  rw [columns, hn, List.map_append, List.map_singleton, eraseDups_concat]
  simp only [columns, List.mem_eraseDups]

/-- A look-up after one more criterion with a new name. -/
theorem get?_concat (hk : key ∉ c.names) (name : String) :
    Entries.get? name (c ++ [(key, v)]) = if key = name then some v else c.get? name := by
  rw [Entries.get?_append, Entries.get?_singleton]
  by_cases h : key = name
  · rw [if_pos h, Entries.get?_eq_none_iff.2 (h ▸ hk), Option.none_or, if_pos h]
  · rw [if_neg h, if_neg h, Option.or_none]

/-- The value under a column's own name after one more criterion with a new name. -/
theorem wholeIn?_concat (bound? : String → Option (String × Side)) (hk : key ∉ c.names)
    (column : String) :
    wholeIn? bound? (c ++ [(key, v)]) column =
      if key = column ∧ bound? key = none then some v else wholeIn? bound? c column := by
  unfold wholeIn?
  rw [get?_concat hk]
  by_cases h : key = column
  · subst h
    cases hb : bound? key <;> simp
  · simp [h]

/-- The value of a bound after one more criterion with a new name. -/
theorem boundIn_concat (hk : key ∉ c.names) (column : String) (side : Side) :
    boundIn (c ++ [(key, v)]) column side =
      if key = column ++ side.ending then v else boundIn c column side := by
  unfold boundIn
  rw [get?_concat hk]
  by_cases h : key = column ++ side.ending <;> simp [h]

/-- A column whose own name is no name of a criterion is not given as a whole. -/
theorem wholeIn?_eq_none (bound? : String → Option (String × Side)) (hk : key ∉ c.names) :
    wholeIn? bound? c key = none := by
  rw [wholeIn?, Entries.get?_eq_none_iff.2 hk, ite_self]

/-- A column that is given as a whole is mentioned. -/
theorem mem_columns_of_whole {bound? : String → Option (String × Side)} {column : String}
    (h : (wholeIn? bound? c column).isSome) : column ∈ columns bound? c := by
  cases hb : bound? column with
  | some b => simp [wholeIn?, hb] at h
  | none =>
    have hm : column ∈ c.names := by
      rw [← Entries.get?_isSome_iff]
      simpa [wholeIn?, hb] using h
    exact mem_columns.2 ⟨column, hm, by simp [columnOf, hb]⟩

/-- A mentioned column that is not given as a whole is mentioned by the name of a bound. -/
theorem exists_bound {bound? : String → Option (String × Side)} {column : String}
    (hm : column ∈ columns bound? c) (hw : wholeIn? bound? c column = none) :
    ∃ k ∈ c.names, ∃ side, bound? k = some (column, side) := by
  obtain ⟨k, hk, hc⟩ := mem_columns.1 hm
  cases hb : bound? k with
  | some b =>
    obtain ⟨base, side⟩ := b
    have hbase : base = column := by simpa [columnOf, hb] using hc
    exact ⟨k, hk, side, hbase ▸ hb⟩
  | none =>
    -- The name mentions itself, so that the column would be given as a whole.
    have hkc : k = column := by simpa [columnOf, hb] using hc
    subst hkc
    rw [wholeIn?, hb, ← Option.not_isSome_iff_eq_none] at hw
    exact absurd (Entries.get?_isSome_iff.2 hk) hw

/-- A criterion that mentions another column changes nothing of what is given for a column. -/
theorem givenIn_concat_of_ne (hk : key ∉ c.names) {column : String}
    (hm : column ∈ columns (splitAmong? isRange) c)
    (hne : columnOf (splitAmong? isRange) key ≠ column) :
    givenIn (splitAmong? isRange) (c ++ [(key, v)]) column =
      givenIn (splitAmong? isRange) c column := by
  have hwhole : wholeIn? (splitAmong? isRange) (c ++ [(key, v)]) column =
      wholeIn? (splitAmong? isRange) c column := by
    rw [wholeIn?_concat _ hk, if_neg]
    rintro ⟨rfl, hb⟩
    exact hne (by simp [columnOf, hb])
  unfold givenIn
  rw [hwhole]
  cases hw : wholeIn? (splitAmong? isRange) c column with
  | some w => rfl
  | none =>
    have hbound (side : Side) : boundIn (c ++ [(key, v)]) column side = boundIn c column side := by
      rw [boundIn_concat hk, if_neg]
      intro hkey
      obtain ⟨k, -, other, hb⟩ := exists_bound hm hw
      obtain ⟨hnil, hr, -⟩ := splitAmong?_eq_some_iff.1 hb
      have hkey' : splitAmong? isRange key = some (column, side) :=
        splitAmong?_eq_some_iff.2 ⟨hnil, hr, hkey⟩
      exact hne (by simp [columnOf, hkey'])
    rw [hbound, hbound]

/-- What has been given for a column when a prefix of the criteria has been gathered. -/
theorem givenSoFar?_reading (bound? : String → Option (String × Side)) (c : Entries Value)
    (column : String) :
    givenSoFar? (reading bound? c) column =
      if column ∈ columns bound? c then some (givenIn bound? c column) else none := by
  rw [givenSoFar?, reading, Entries.get?_tabulate]
  by_cases h : column ∈ columns bound? c <;> simp [h]

/-- A reading with one more mention is the reading of one more criterion, if this is what is given
for the column that the criterion mentions. -/
theorem put_reading (hk : key ∉ c.names) {g : Given}
    (hg : givenIn (splitAmong? isRange) (c ++ [(key, v)])
      (columnOf (splitAmong? isRange) key) = g) :
    (reading (splitAmong? isRange) c).put (columnOf (splitAmong? isRange) key)
        ⟨.text (columnOf (splitAmong? isRange) key), g⟩ =
      reading (splitAmong? isRange) (c ++ [(key, v)]) := by
  generalize hb : splitAmong? isRange = bound? at *
  have hnames : ((reading bound? c).put (columnOf bound? key)
      ⟨.text (columnOf bound? key), g⟩).names =
      (reading bound? (c ++ [(key, v)])).names := by
    rw [Entries.names_put, reading, Entries.names_tabulate, reading, Entries.names_tabulate,
      columns_concat]
  apply Entries.eq_of_get? hnames
  · rw [hnames, reading, Entries.names_tabulate]
    exact nodup_eraseDups _
  · intro column hm
    have hmem : column ∈ columns bound? (c ++ [(key, v)]) := by
      rwa [hnames, reading, Entries.names_tabulate] at hm
    have hright : (reading bound? (c ++ [(key, v)])).get? column =
        some ⟨.text column, givenIn bound? (c ++ [(key, v)]) column⟩ := by
      rw [reading, Entries.get?_tabulate, if_pos hmem]
    rw [hright]
    by_cases hc : column = columnOf bound? key
    · rw [hc, Entries.get?_put_self, hg]
    · have hold : column ∈ columns bound? c := by
        rw [columns_concat] at hmem
        split at hmem
        · exact hmem
        · simpa [hc] using hmem
      rw [Entries.get?_put_of_ne _ _ hc, reading, Entries.get?_tabulate, if_pos hold]
      subst hb
      rw [givenIn_concat_of_ne hk hold (Ne.symm hc)]

/-- A key that is a text writes the column that it mentions as a text. -/
theorem writtenBy_text (isRange : String → Bool) (key : String) :
    writtenBy isRange key (.text key) = .text (columnOf (splitAmong? isRange) key) := by
  unfold writtenBy columnOf
  cases splitAmong? isRange key <;> rfl

/-- Gathering the value of a key that is a text, which goes with what has been given. -/
theorem gather_text_of_some {done : Entries Mention} {g : Given}
    (hg : merged? isRange key v (givenSoFar? done (columnOf (splitAmong? isRange) key)) = some g) :
    gather isRange done (.text key) v =
      .ok (done.put (columnOf (splitAmong? isRange) key)
        ⟨.text (columnOf (splitAmong? isRange) key), g⟩) := by
  rw [gather_of_name rfl, hg, writtenBy_text]

/-- Gathering the value of a key that is a text, which is in conflict with what has been given. -/
theorem gather_text_of_none {done : Entries Mention}
    (hg : merged? isRange key v (givenSoFar? done (columnOf (splitAmong? isRange) key)) = none) :
    gather isRange done (.text key) v =
      .error (.conflict (.text (columnOf (splitAmong? isRange) key))) := by
  rw [gather_of_name rfl, hg, writtenBy_text]

/-- A column's own name is gathered to the reading, or the column is already given by its
bounds. -/
theorem gather_whole_reads (hk : key ∉ c.names) (hb : splitAmong? isRange key = none)
    (hc : ∀ b, ¬IsMixed (splitAmong? isRange) c b) :
    Reads (splitAmong? isRange) (c ++ [(key, v)])
      (gather isRange (reading (splitAmong? isRange) c) (.text key) v) := by
  have hcol : columnOf (splitAmong? isRange) key = key := columnOf_of_whole hb
  have hw : wholeIn? (splitAmong? isRange) c key = none := wholeIn?_eq_none _ hk
  have hw' : wholeIn? (splitAmong? isRange) (c ++ [(key, v)]) key = some v := by
    rw [wholeIn?_concat _ hk, if_pos ⟨rfl, hb⟩]
  have hsofar := givenSoFar?_reading (splitAmong? isRange) c key
  -- The key is new, so that the column can have been mentioned by a bound only.
  by_cases hm : key ∈ columns (splitAmong? isRange) c
  · right
    have hg : merged? isRange key v (givenSoFar? (reading (splitAmong? isRange) c)
        (columnOf (splitAmong? isRange) key)) = none := by
      rw [hcol, hsofar, if_pos hm, givenIn, hw]
      simp [merged?, hb]
    refine ⟨key, ⟨by rw [hw']; rfl, ?_⟩, by rw [gather_text_of_none hg, hcol]⟩
    obtain ⟨k, hkc, side, hks⟩ := exists_bound hm hw
    refine ⟨k, ?_, side, hks⟩
    rw [Entries.names_append]
    exact List.mem_append_left _ hkc
  · left
    have hg : merged? isRange key v (givenSoFar? (reading (splitAmong? isRange) c)
        (columnOf (splitAmong? isRange) key)) = some (.whole v) := by
      rw [hcol, hsofar, if_neg hm]
      exact (merged?_of_whole hb).2 ⟨by simp, rfl⟩
    have hgiven : givenIn (splitAmong? isRange) (c ++ [(key, v)])
        (columnOf (splitAmong? isRange) key) = .whole v := by rw [hcol, givenIn, hw']
    constructor
    · rw [gather_text_of_some hg, put_reading hk hgiven]
    · -- A column that is mixed now was mixed before, for the key is none of its names.
      rintro b ⟨hbw, k, hkc, side, hks⟩
      rw [Entries.names_append, List.mem_append] at hkc
      have hkc' : k ∈ c.names := by
        rcases hkc with hkc | hkc
        · exact hkc
        · obtain rfl : k = key := by simpa [Entries.names] using hkc
          rw [hb] at hks
          cases hks
      have hbk : key ≠ b := by
        rintro rfl
        exact hm (mem_columns.2 ⟨k, hkc', by rw [columnOf, hks]; rfl⟩)
      rw [wholeIn?_concat _ hk, if_neg fun h => hbk h.1] at hbw
      exact hc b ⟨hbw, k, hkc', side, hks⟩

/-- The bounds that are given for a column so far, of which none means that it is not mentioned. -/
theorem bounds_of_reading {base : String} {side : Side}
    (hb : splitAmong? isRange key = some (base, side))
    (hw : wholeIn? (splitAmong? isRange) c base = none) :
    (givenSoFar? (reading (splitAmong? isRange) c) base).getD (.bounds .null .null) =
      .bounds (boundIn c base .low) (boundIn c base .high) := by
  rw [givenSoFar?_reading]
  by_cases hm : base ∈ columns (splitAmong? isRange) c
  · rw [if_pos hm, Option.getD_some, givenIn, hw]
  · rw [if_neg hm, Option.getD_none]
    obtain ⟨hnil, hr, -⟩ := splitAmong?_eq_some_iff.1 hb
    have hnull (other : Side) : boundIn c base other = .null := by
      have hother : splitAmong? isRange (base ++ other.ending) = some (base, other) :=
        splitAmong?_eq_some_iff.2 ⟨hnil, hr, rfl⟩
      have hnot : base ++ other.ending ∉ c.names := fun h =>
        hm (mem_columns.2 ⟨_, h, by rw [columnOf, hother]; rfl⟩)
      rw [boundIn, Entries.get?_eq_none_iff.2 hnot, Option.getD_none]
    rw [hnull, hnull]

/-- The name of a bound is gathered to the reading, or the column is already given as a whole. -/
theorem gather_bound_reads (hk : key ∉ c.names) {base : String} {side : Side}
    (hb : splitAmong? isRange key = some (base, side))
    (hc : ∀ b, ¬IsMixed (splitAmong? isRange) c b) :
    Reads (splitAmong? isRange) (c ++ [(key, v)])
      (gather isRange (reading (splitAmong? isRange) c) (.text key) v) := by
  obtain ⟨hnil, hr, hkey⟩ := splitAmong?_eq_some_iff.1 hb
  have hcol : columnOf (splitAmong? isRange) key = base := columnOf_of_bound hb
  have hwhole (column : String) : wholeIn? (splitAmong? isRange) (c ++ [(key, v)]) column =
      wholeIn? (splitAmong? isRange) c column := by
    rw [wholeIn?_concat _ hk, if_neg]
    rintro ⟨-, hn⟩
    rw [hb] at hn
    cases hn
  have hnew : key ∈ Entries.names (c ++ [(key, v)]) := by simp [Entries.names]
  cases hw : wholeIn? (splitAmong? isRange) c base with
  | some w =>
    -- A column that is given whole has no place for a bound.
    right
    have hm : base ∈ columns (splitAmong? isRange) c := mem_columns_of_whole (by rw [hw]; rfl)
    have hg : merged? isRange key v (givenSoFar? (reading (splitAmong? isRange) c)
        (columnOf (splitAmong? isRange) key)) = none := by
      rw [hcol, givenSoFar?_reading, if_pos hm, givenIn, hw]
      simp [merged?, hb]
    exact ⟨base, ⟨by rw [hwhole, hw]; rfl, key, hnew, side, hb⟩,
      by rw [gather_text_of_none hg, hcol]⟩
  | none =>
    left
    have hg : merged? isRange key v (givenSoFar? (reading (splitAmong? isRange) c)
        (columnOf (splitAmong? isRange) key)) =
        some (.withBound (boundIn c base .low) (boundIn c base .high) side v) := by
      rw [hcol]
      exact (merged?_of_bound hb).2 ⟨_, _, bounds_of_reading hb hw, rfl⟩
    have hgiven : givenIn (splitAmong? isRange) (c ++ [(key, v)])
        (columnOf (splitAmong? isRange) key) =
        .withBound (boundIn c base .low) (boundIn c base .high) side v := by
      -- The key is the name of its own side's bound only, so that the other side stays.
      rw [hcol, givenIn, hwhole, hw, boundIn_concat hk, boundIn_concat hk]
      cases side with
      | low =>
        have hne : key ≠ base ++ Side.high.ending := fun h => by
          cases Side.eq_of_append_ending (hkey.symm.trans h)
        rw [if_pos hkey, if_neg hne]
        rfl
      | high =>
        have hne : key ≠ base ++ Side.low.ending := fun h => by
          cases Side.eq_of_append_ending (hkey.symm.trans h)
        rw [if_pos hkey, if_neg hne]
        rfl
    constructor
    · rw [gather_text_of_some hg, put_reading hk hgiven]
    · -- The key adds no column to those that are mixed, for its own is not given whole.
      rintro b ⟨hbw, k, hkc, other, hks⟩
      rw [hwhole] at hbw
      rw [Entries.names_append, List.mem_append] at hkc
      rcases hkc with hkc | hkc
      · exact hc b ⟨hbw, k, hkc, other, hks⟩
      · obtain rfl : k = key := by simpa [Entries.names] using hkc
        obtain ⟨rfl, -⟩ : b = base ∧ other = side := by simpa [hb, eq_comm] using hks
        rw [hw] at hbw
        cases hbw

/-- Gathering goes wrong with the first criterion that does. -/
theorem isMixed_concat {bound? : String → Option (String × Side)} (hk : key ∉ c.names) {b : String}
    (h : IsMixed bound? c b) : IsMixed bound? (c ++ [(key, v)]) b := by
  obtain ⟨hw, k, hkc, side, hks⟩ := h
  refine ⟨?_, k, ?_, side, hks⟩
  · rw [wholeIn?_concat _ hk]
    split
    · rfl
    · exact hw
  · rw [Entries.names_append]
    exact List.mem_append_left _ hkc

/-- Gathering criteria with distinct names gives their reading, unless a column is mixed. -/
theorem gatherAll_reads (isRange : String → Bool) (c : Entries Value) (hd : c.names.Nodup) :
    Reads (splitAmong? isRange) c (gatherAll isRange [] (ofEntries c)) := by
  induction c using List.reverseRecOn with
  | nil =>
    refine Or.inl ⟨rfl, ?_⟩
    rintro b ⟨-, k, hk, -⟩
    simp [Entries.names] at hk
  | append_singleton c e ih =>
    obtain ⟨key, v⟩ := e
    have hd' : (Entries.names c).Nodup ∧ key ∉ Entries.names c := by
      rw [Entries.names_append, List.nodup_append] at hd
      exact ⟨hd.1, fun h => hd.2.2 key h key (by simp [Entries.names]) rfl⟩
    have happ : ofEntries (c ++ [(key, v)]) = ofEntries c ++ [(.text key, v)] :=
      List.map_append
    have hone (done : Entries Mention) : gatherAll isRange done [(.text key, v)] =
        gather isRange done (.text key) v := by
      rw [gatherAll]
      cases gather isRange done (.text key) v <;> rfl
    rw [happ, gatherAll_append]
    rcases ih hd'.1 with ⟨hok, hc⟩ | ⟨b, hm, herr⟩
    · rw [hok, Except.bind, hone]
      cases hb : splitAmong? isRange key with
      | none => exact gather_whole_reads hd'.2 hb hc
      | some p => exact gather_bound_reads hd'.2 hb hc
    · rw [herr]
      exact Or.inr ⟨b, isMixed_concat hd'.2 hm, rfl⟩

end Step

end Criteria

end Searchable
