import Searchable.Proofs.Schema.Refusal

/-!
# A single criterion

What compiling comes to for criteria of one entry. The name mentions one column (`mention`): that of
which it names a bound, or else the column of its own name. By `compile_single` the entry is refused
if that column is not declared, and otherwise comes to what the table of strategies says of it.
-/

namespace Searchable.Schema

variable {s : Schema} {name column : String} {v : Value}

/-- The column that a name mentions, and what a value under the name gives for it. -/
def mention (s : Schema) (name : String) (v : Value) : String × Given :=
  match s.boundOf? name with
  | none => (name, .whole v)
  | some (column, side) => (column, .withBound .null .null side v)

/-- The name of a bound is made of a declared range column and an ending. -/
theorem of_boundOf? {side : Side} (h : s.boundOf? name = some (column, side)) :
    column ≠ "" ∧ s.ranges.contains column = true ∧ name = column ++ side.ending :=
  mem_boundNames.1 (Entries.mem_of_get? h)

/-- A name is not a column with an ending of its own. -/
theorem ne_append_ending (column : String) (side : Side) : column ++ side.ending ≠ column := by
  intro h
  have hlength := congrArg String.length h
  rw [String.length_append] at hlength
  have hpos : 0 < side.ending.length := by cases side <;> decide
  omega

/-- A single entry mentions one column. -/
theorem columns_single (s : Schema) (name : String) (v : Value) :
    Criteria.columns s.boundOf? [(name, v)] = [(s.mention name v).1] := by
  have hcolumn : Criteria.columnOf s.boundOf? name = (s.mention name v).1 := by
    unfold Criteria.columnOf mention
    cases s.boundOf? name <;> rfl
  rw [← hcolumn]
  rfl

/-- What a single entry gives for the column that it mentions. -/
theorem givenIn_single (s : Schema) (name : String) (v : Value) :
    Criteria.givenIn s.boundOf? [(name, v)] (s.mention name v).1 = (s.mention name v).2 := by
  unfold mention
  cases hb : s.boundOf? name with
  | none => simp [Criteria.givenIn, Criteria.wholeIn?, hb, Entries.get?]
  | some p =>
    obtain ⟨column, side⟩ := p
    obtain ⟨-, -, rfl⟩ := of_boundOf? hb
    -- The one name is not that of the column, and only one of its bounds bears it.
    have hwhole : Criteria.wholeIn? s.boundOf? [(column ++ side.ending, v)] column = none := by
      unfold Criteria.wholeIn?
      split
      · rfl
      · rw [Entries.get?_singleton, if_neg (ne_append_ending column side)]
    have hbound (other : Side) :
        Criteria.boundIn [(column ++ side.ending, v)] column other =
          if side = other then v else .null := by
      unfold Criteria.boundIn
      rw [Entries.get?_singleton]
      by_cases hs : side = other
      · rw [hs, if_pos rfl, if_pos rfl]
        rfl
      · rw [if_neg (fun h => hs (Side.eq_of_append_ending h)), if_neg hs]
        rfl
    simp only [Criteria.givenIn, hwhole, hbound]
    cases side <;> rfl

/-- A single entry gives no column in two ways. -/
theorem not_isMixed_single (s : Schema) (name : String) (v : Value) (column : String) :
    ¬Criteria.IsMixed s.boundOf? [(name, v)] column := by
  rintro ⟨hwhole, key, hkey, side, hb⟩
  obtain rfl : key = name := by simpa [Entries.names] using hkey
  obtain ⟨-, -, rfl⟩ := of_boundOf? hb
  unfold Criteria.wholeIn? at hwhole
  split at hwhole
  · cases hwhole
  · rw [Entries.get?_singleton, if_neg (ne_append_ending column side)] at hwhole
    cases hwhole

/-- The name of a single entry is unknown if the column that it mentions is not declared. -/
theorem unknown?_single (s : Schema) (name : String) (v : Value) :
    s.unknown? [(name, v)] =
      if s.strategies.contains (s.mention name v).1 then none else some name := by
  have hunknown : s.unknown? [(name, v)] =
      if (s.boundOf? name).isNone && !s.strategies.contains name then some name else none := by
    unfold unknown?
    rw [show Entries.names [(name, v)] = [name] from rfl, List.find?_cons]
    cases (s.boundOf? name).isNone && !s.strategies.contains name <;> rfl
  rw [hunknown]
  unfold mention
  cases hb : s.boundOf? name with
  | none => cases s.strategies.contains name <;> simp
  | some p =>
    obtain ⟨column, side⟩ := p
    have hd : s.strategies.contains column = true := contains_of_ranges (of_boundOf? hb).2.1
    simp [hd]

/-- Compiling a single entry refuses the name if the column that it mentions is not declared, and
otherwise what is given for the column yields its rows or is refused for its defect. -/
theorem compile_single (s : Schema) (name : String) (v : Value) :
    if s.strategies.contains (s.mention name v).1 then
      match s.defect? (s.mention name v).1 (s.mention name v).2 with
      | some f => s.compile (.ofEntries [(name, v)]) .null = .error f
      | none => ∃ cs, s.compile (.ofEntries [(name, v)]) .null = .ok (.ofClauses cs none) ∧
        cs.map Clause.row = s.rows (s.mention name v).1 (s.mention name v).2
    else s.compile (.ofEntries [(name, v)]) .null = .error (unknownFailure name) := by
  have hdefect : s.defectIn? [(name, v)] =
      s.defect? (s.mention name v).1 (s.mention name v).2 := by
    rw [defectIn?, columns_single, List.findSome?_cons, givenIn_single]
    cases s.defect? (s.mention name v).1 (s.mention name v).2 <;> rfl
  have hrows : s.rowsIn [(name, v)] = s.rows (s.mention name v).1 (s.mention name v).2 := by
    rw [rowsIn, columns_single, List.flatMap_cons, givenIn_single, List.flatMap_nil,
      List.append_nil]
  have hnodup : (Entries.names [(name, v)]).Nodup := by simp [Entries.names]
  rcases s.compile_cases [(name, v)] hnodup with ⟨column, _, _, hmixed, -⟩ | ⟨-, hout⟩
  · exact absurd hmixed (s.not_isMixed_single name v column)
  · rw [unknown?_single, hdefect, hrows] at hout
    cases hd : s.strategies.contains (s.mention name v).1 with
    | false => simpa only [hd, Bool.false_eq_true, if_false] using hout
    | true =>
      rw [hd, if_pos rfl] at hout
      rw [if_pos rfl]
      cases hf : s.defect? (s.mention name v).1 (s.mention name v).2 with
      | some f => simpa only [hf] using hout
      | none => simpa only [hf] using hout

end Searchable.Schema
