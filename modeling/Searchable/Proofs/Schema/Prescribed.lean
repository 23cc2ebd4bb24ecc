import Searchable.Proofs.Schema.Phases

/-!
# What the table prescribes

The condition that the table of strategies prescribes for criteria, read off them without gathering
them first: the rows of each mentioned column in the order of first mention, each text between
parentheses and joined by `AND`, and their parameters in the same order. Where compiling succeeds,
this is its result.
-/

namespace Searchable

namespace Schema

/-- The condition that the table of strategies prescribes for criteria. -/
def prescribed (s : Schema) (c : Entries Value) : Condition :=
  ⟨" AND ".intercalate ((s.rowsIn c).map fun r => "(" ++ r.text ++ ")"),
    (s.rowsIn c).flatMap Row.params⟩

/-- The condition of clauses depends on their rows only. -/
theorem ofClauses_of_rows {cs : List Clause} {rows : List Row} (h : cs.map Clause.row = rows) :
    Condition.ofClauses cs none =
      ⟨" AND ".intercalate (rows.map fun r => "(" ++ r.text ++ ")"), rows.flatMap Row.params⟩ := by
  have halone : Condition.ofClauses cs none =
      ⟨Condition.conjunction (cs.map Clause.text), cs.flatMap Clause.params⟩ :=
    Condition.ofClauses_of_empty cs (by simp)
  subst h
  rw [halone, Condition.flatMap_params_rows, ← Condition.map_text_rows, Condition.conjunction,
    List.map_map]
  rfl

/-- Where compiling criteria with distinct names succeeds without a further condition, the result is
what the table of strategies prescribes for them. -/
theorem compile_eq_prescribed {s : Schema} {c : Entries Value} {r : Condition}
    (hc : c.names.Nodup) (h : s.compile (.ofEntries c) .null = .ok r) : r = s.prescribed c := by
  -- Only the last of the ways in which a call may end is a success.
  rcases s.compile_cases c hc with ⟨_, _, _, _, _, _, herr⟩ | ⟨-, hout⟩
  · rw [h] at herr
    cases herr
  · split at hout
    · rw [h] at hout
      cases hout
    · rw [h] at hout
      cases hout
    · obtain ⟨cs, hok, hrows⟩ := hout
      rw [h] at hok
      rw [Except.ok.inj hok]
      exact ofClauses_of_rows hrows

/-- A schema in which one column bears the name of another's lower bound. -/
def people : Schema :=
  ⟨"Person", [("age", .closedRange), ("name", .matchPartial), ("seen", .openRange),
    ("age_from", .openRange), ("area", .including)], [], .null, [("name", .text "u.name")],
    .text "find_all"⟩

/-- Criteria in which the bounds of columns come apart and in either order, with a blank one. -/
def peopleCriteria : Entries Value :=
  [("seen_to", .int 9), ("age_to", .text " "), ("name", .text "Tom"), ("age_from", .int 20),
    ("age_from_to", .int 7), ("seen_from", .int 3), ("area", .tuple [.text "N", .text "S"])]

/-- The condition of these criteria. The bounds of a column go to the place of its first mention. -/
def peopleCondition : Condition :=
  ⟨"(? <= (seen)) AND ((seen) <= ?) AND (? <= (age)) AND ((age) <= ?) AND " ++
      "((u.name) LIKE ?) AND ((age_from) <= ?) AND ((area) IN (?))",
    [.int 3, .int 9, .int 20, .int 20, .text "%Tom%", .int 7, .list [.text "N", .text "S"]]⟩

/-- This condition is compiled, and it is what the table prescribes. -/
theorem people_compile_eq_prescribed :
    peopleCriteria.names.Nodup ∧
      people.compile (.ofEntries peopleCriteria) .null = .ok peopleCondition ∧
      peopleCondition = people.prescribed peopleCriteria := by
  have hd : peopleCriteria.names.Nodup := by decide
  have h : people.compile (.ofEntries peopleCriteria) .null = .ok peopleCondition := by rfl
  exact ⟨hd, h, compile_eq_prescribed hd h⟩

end Schema

end Searchable
