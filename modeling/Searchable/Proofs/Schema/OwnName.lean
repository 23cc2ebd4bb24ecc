import Searchable.Proofs.Registry.Stored
import Searchable.Proofs.Schema.Single

/-!
# Columns under their own names

Whether a declared column can be searched under its own name. A value that fits its strategy
(`Strategy.Fits`) has rows over the column's target and nothing is wrong with it, so that it makes
clauses of the column, as long as the name is not that of another column's bound. Where it is, the
clauses are those of the other column (`compile_ownName`). Registering such a schema is not refused
(`clashing_redirected`).
-/

namespace Searchable

/-- Two bounds make a value that is not blank, whatever they are. -/
theorem Given.isBlank_of_sides? {v : Value} {p : Value × Value}
    (h : (Given.whole v).sides? = some p) : v.isBlank = false := by
  unfold sides? at h
  split at h
  · rename_i he
    cases he
  · rename_i he
    obtain rfl := Given.whole.inj he
    rfl
  · rename_i he
    obtain rfl := Given.whole.inj he
    rfl
  · cases h

/-- Whether a strategy makes clauses of a value: of two bounds for a range, one of which is not
blank, and otherwise of a value that is not blank and, for a partial match, has a text. -/
def Strategy.Fits (s : Strategy) (v : Value) : Prop :=
  match s with
  | .closedRange | .openRange => ∃ low high, (Given.whole v).sides? = some (low, high) ∧
      (low.isBlank && high.isBlank) = false
  | .matchPartial => v.isBlank = false ∧ ∃ text, v.written = .ok text
  | .matchFull | .including => v.isBlank = false

namespace Strategy.Fits

variable {s : Strategy} {v : Value}

/-- A value that fits is not blank. -/
theorem isBlank (h : s.Fits v) : v.isBlank = false := by
  cases s with
  | closedRange | openRange =>
    obtain ⟨low, high, hsides, -⟩ := h
    exact Given.isBlank_of_sides? hsides
  | matchPartial => exact h.1
  | matchFull | including => exact h

/-- A value that fits has rows. -/
theorem rows_ne_nil (h : s.Fits v) (target : String) : s.rows target (.whole v) ≠ [] := by
  have hblank : (Given.whole v).value.isBlank = false := h.isBlank
  unfold rows
  rw [hblank, if_neg Bool.false_ne_true]
  cases s with
  | matchFull | matchPartial | including => exact List.cons_ne_nil _ _
  | closedRange =>
    obtain ⟨low, high, hsides, hgiven⟩ := h
    rw [hsides, Option.elim_some, closedRows, hgiven, if_neg Bool.false_ne_true]
    exact List.cons_ne_nil _ _
  | openRange =>
    obtain ⟨low, high, hsides, hgiven⟩ := h
    rw [hsides]
    cases hl : low.isBlank with
    | true =>
      have hh : high.isBlank = false := by simpa [hl] using hgiven
      simp [openRows, hl, hh]
    | false => simp [openRows, hl]

/-- Nothing is wrong with a value that fits, over a target that has a text without a placeholder. -/
theorem defect?_eq_none (h : s.Fits v) {column t : String} {target : Value}
    (ht : target.written = .ok t) (hclean : '?' ∉ t.toList) :
    s.defect? column target (.whole v) = none := by
  have hvalue : s.valueDefect? column (.whole v) = none := by
    cases s with
    | matchFull | including => rfl
    | matchPartial =>
      obtain ⟨-, text, htext⟩ := h
      simp only [valueDefect?, Given.value, htext]
    | closedRange | openRange =>
      obtain ⟨low, high, hsides, -⟩ := h
      simp [valueDefect?, hsides]
  have htarget : s.targetDefect? t (.whole v) = none := if_neg hclean
  have hblank : (Given.whole v).value.isBlank = false := h.isBlank
  unfold defect?
  rw [hblank, if_neg Bool.false_ne_true]
  simp only [ht, hvalue, htarget, Option.or_none]

end Strategy.Fits

namespace Schema

variable {s : Schema} {column t : String} {strategy : Strategy} {v : Value}

/-- A declared column whose target has no placeholder is searched under its own name with a value
that fits its strategy, unless the name is that of another column's bound: then the value is taken
for the bound, and what comes of it is what the other column's strategy makes of the bound. -/
theorem compile_ownName (hstrategy : s.strategies.get? column = some strategy)
    (ht : (s.target column).written = .ok t) (hclean : '?' ∉ t.toList) (hfits : strategy.Fits v) :
    (s.boundOf? column = none →
      ∃ cs, s.compile (.ofEntries [(column, v)]) .null = .ok (.ofClauses cs none) ∧ cs ≠ [] ∧
        cs.map Clause.row = strategy.rows t (.whole v)) ∧
    ∀ other side, s.boundOf? column = some (other, side) →
      match s.defect? other (.withBound .null .null side v) with
      | some f => s.compile (.ofEntries [(column, v)]) .null = .error f
      | none => ∃ cs, s.compile (.ofEntries [(column, v)]) .null = .ok (.ofClauses cs none) ∧
        cs.map Clause.row = s.rows other (.withBound .null .null side v) := by
  have hsingle := s.compile_single column v
  constructor
  · intro hfree
    have hmention : s.mention column v = (column, .whole v) := by rw [mention, hfree]
    have hdeclared : s.strategies.contains column = true := Entries.contains_of_get? hstrategy
    have hdefect : s.defect? column (.whole v) = none := by
      rw [defect?, hstrategy]
      exact hfits.defect?_eq_none ht hclean
    have hrows : s.rows column (.whole v) = strategy.rows t (.whole v) := by
      rw [rows, hstrategy, shown_of_written ht]
      rfl
    rw [hmention, if_pos hdeclared, hdefect, hrows] at hsingle
    obtain ⟨cs, hok, hcs⟩ := hsingle
    refine ⟨cs, hok, ?_, hcs⟩
    rintro rfl
    exact hfits.rows_ne_nil t hcs.symm
  · intro other side hbound
    have hmention : s.mention column v = (other, .withBound .null .null side v) := by
      rw [mention, hbound]
    have hdeclared : s.strategies.contains other = true :=
      contains_of_ranges (of_boundOf? hbound).2.1
    rw [hmention, if_pos hdeclared] at hsingle
    exact hsingle

/-- A declaration in which one column bears the name of another's lower bound. -/
def clashing : Declaration :=
  ⟨[("age", .text "opened_scope"), ("name", .text "match_partial"),
    ("age_from", .text "match_full")], .null, .null, [("name", .text "u.name")], .null⟩

/-- A record type that has the columns for which that declaration has no other expression. -/
def clashingModel : Model :=
  ⟨"Person", "people", [("age", "age"), ("age_from", "age_from")], []⟩

/-- The schema that is stored for that declaration. -/
def clash : Schema :=
  ⟨"Person", [("age", .openRange), ("name", .matchPartial), ("age_from", .matchFull)], [], .null,
    [("name", .text "u.name")], .text "find_all"⟩

/-- A column is searched under its own name, but for one that bears the name of another's bound. -/
theorem clash_compile_ownName :
    (clash.strategies.get? "name" = some .matchPartial ∧
      (clash.target "name").written = .ok "u.name" ∧ '?' ∉ "u.name".toList ∧
      Strategy.matchPartial.Fits (.text "Tom") ∧ clash.boundOf? "name" = none ∧
      ∃ cs, clash.compile (.ofEntries [("name", .text "Tom")]) .null = .ok (.ofClauses cs none) ∧
        cs ≠ [] ∧ cs.map Clause.row = [⟨"(u.name) LIKE ?", [.text "%Tom%"]⟩]) ∧
    clash.boundOf? "age_from" = some ("age", .low) ∧
      ∃ cs, clash.compile (.ofEntries [("age_from", .int 5)]) .null = .ok (.ofClauses cs none) ∧
        cs.map Clause.row = [⟨"? <= (age)", [.int 5]⟩] := by
  have hname : Strategy.matchPartial.Fits (.text "Tom") := ⟨by decide, "Tom", rfl⟩
  have hage : Strategy.matchFull.Fits (.int 5) := rfl
  have hfree : clash.boundOf? "name" = none := by decide
  have hbound : clash.boundOf? "age_from" = some ("age", .low) := by decide
  refine ⟨⟨by decide, rfl, by decide, hname, hfree, ?_⟩, hbound, ?_⟩
  · exact (compile_ownName (s := clash) (by decide) rfl (by decide) hname).1 hfree
  · exact (compile_ownName (s := clash) (by decide) rfl (by decide) hage).2 "age" .low hbound

/-- The declaration is accepted, and a value that fits the column is taken for the bound of the
other. -/
theorem clashing_redirected :
    ((Registry.empty .mapped .usual).register (.model clashingModel) clashing).answer =
        .ok clash ∧
      clash.strategies.get? "age_from" = some .matchFull ∧
      (clash.target "age_from").written = .ok "age_from" ∧ '?' ∉ "age_from".toList ∧
      Strategy.matchFull.Fits (.int 5) ∧
      clash.compile (.ofEntries [("age_from", .int 5)]) .null = .ok ⟨"(? <= (age))", [.int 5]⟩ ∧
      ¬∃ cs, clash.compile (.ofEntries [("age_from", .int 5)]) .null = .ok (.ofClauses cs none) ∧
        cs.map Clause.row = Strategy.matchFull.rows "age_from" (.whole (.int 5)) := by
  have hcompile : clash.compile (.ofEntries [("age_from", .int 5)]) .null =
      .ok ⟨"(? <= (age))", [.int 5]⟩ := by rfl
  have hregister : ((Registry.empty .mapped .usual).register (.model clashingModel)
      clashing).answer = .ok clash := by rfl
  refine ⟨hregister, by decide, rfl, by decide, rfl, hcompile, ?_⟩
  rintro ⟨cs, hok, hrows⟩
  rw [hcompile, ofClauses_of_rows hrows] at hok
  have hexpression := congrArg Condition.expression (Except.ok.inj hok)
  revert hexpression
  decide

end Schema

end Searchable
