import Searchable.Proofs.Condition.Nesting
import Searchable.Proofs.Schema.Forms

/-!
# Clauses stay apart

Whatever stands for the columns of a schema and whatever a caller adds, as long as each of these
texts is balanced, the condition of criteria can be taken apart again
(`Schema.conjuncts_of_compile`). The clauses are balanced because their forms put nothing unbalanced
around a target (`Clause.IsOver.isBalanced`).
-/

namespace Searchable

/-- A clause over a balanced target is balanced. -/
theorem Clause.IsOver.isBalanced {target : String} {c : Clause} (h : c.IsOver target)
    (htarget : IsBalanced target) : IsBalanced c.text := by
  have hbefore : IsBalanced "? <= " := by decide
  have hafter : ∀ ending ∈ Strategy.endings, IsBalanced ending := by decide
  rcases h.form with htext | ⟨ending, hending, htext⟩
  · rw [htext]
    exact hbefore.append htarget
  · rw [htext]
    exact htarget.append (hafter ending hending)

namespace Schema

variable {s : Schema}

/-- The target of a column that is written as a strategy is balanced where the target of the column
that is written as a text is: where no expression stands in for it, it is the name of the strategy.
-/
theorem isBalanced_of_targetOf {column text : String} {written : Value}
    (htarget : ∀ text, (s.target column).written = .ok text → IsBalanced text)
    (hwritten : written.text? = some column)
    (htext : (s.targetOf column written).written = .ok text) : IsBalanced text := by
  have hlabel (strategy : Strategy) :
      ((Value.strategyLabel strategy).toList.all fun c => opens c == 0) = true := by
    cases strategy <;> decide
  cases written with
  | text name =>
    obtain rfl := Option.some.inj hwritten
    exact htarget text htext
  | strategy strategy =>
    unfold targetOf at htext
    unfold target targetOf at htarget
    cases halias : s.aliases.get? column with
    | some expression =>
      rw [halias] at htext htarget
      exact htarget text htext
    | none =>
      rw [halias] at htext
      rw [← Except.ok.inj htext]
      exact .of_plain fun c hc => eq_of_beq (List.all_eq_true.1 (hlabel strategy) c hc)
  | _ => cases hwritten

/-- Splitting the expression of a compiled condition outside all parentheses gives back the clauses
of the criteria in order, each between its parentheses, and after them what the caller adds. -/
theorem conjuncts_of_compile {criteria : Criteria} {additional : Value} {r : Condition}
    (htargets : ∀ column ∈ s.strategies.names, ∀ text,
      (s.target column).written = .ok text → IsBalanced text)
    (hadditional : ∀ f, Condition.ofAdditional additional = .ok (some f) → IsBalanced f.expression)
    (h : s.compile criteria additional = .ok r) (hne : r.isEmpty = false) :
    ∃ groups further, s.criteriaGroups criteria = .ok groups ∧
      Condition.ofAdditional additional = .ok further ∧
      conjuncts r.expression =
        (groups.flatten.map Clause.text ++
          (further.toList.filter fun f => !f.isEmpty).map Condition.expression).map
            parenthesised := by
  obtain ⟨groups, hgroups, h⟩ := bind_eq_ok_iff.1 h
  obtain ⟨further, hfurther, h⟩ := bind_eq_ok_iff.1 h
  have hfurther := mapError_eq_ok_iff.1 hfurther
  obtain rfl := Except.ok.inj h
  have hclauses : ∀ c ∈ groups.flatten, IsBalanced c.text := by
    intro c hc
    obtain ⟨column, hcolumn, written, text, hwritten, htext, hover⟩ :=
      isOver_of_criteriaGroups hgroups c hc
    exact hover.isBalanced
      (isBalanced_of_targetOf (htargets column hcolumn) hwritten htext).parenthesised
  refine ⟨groups, further, hgroups, hfurther, conjuncts_conjunction ?_ ?_⟩
  · intro hnil
    have hempty := Condition.conjunction_eq_empty_iff.2 hnil
    rw [Condition.isEmpty, beq_eq_false_iff_ne] at hne
    exact hne hempty
  · rw [List.forall_mem_append, List.forall_mem_map, List.forall_mem_map]
    refine ⟨hclauses, fun f hf => hadditional f ?_⟩
    rw [hfurther, Option.mem_toList.1 (List.mem_filter.1 hf).1]

/-- A schema in which an expression with an `AND` of its own stands in for a column. -/
def nested : Schema :=
  ⟨"Person", [("age", .closedRange), ("name", .matchPartial)], [], .null,
    [("age", .text "f(a) AND (b OR c)")], .text "find_all"⟩

/-- What is added has an `AND` of its own as well, and none of them is split. -/
theorem nested_conjuncts :
    (∀ column ∈ nested.strategies.names, ∀ text,
        (nested.target column).written = .ok text → IsBalanced text) ∧
      (∀ f, Condition.ofAdditional (.tuple [.text "(d) AND e > ?", .int 3]) = .ok (some f) →
        IsBalanced f.expression) ∧
      nested.compile [(.text "age_from", .int 20), (.text "name", .text "Tom")]
          (.tuple [.text "(d) AND e > ?", .int 3]) =
        .ok ⟨"(? <= (f(a) AND (b OR c))) AND ((f(a) AND (b OR c)) <= ?) AND ((name) LIKE ?) AND " ++
          "((d) AND e > ?)", [.int 20, .int 20, .text "%Tom%", .int 3]⟩ ∧
      conjuncts ("(? <= (f(a) AND (b OR c))) AND ((f(a) AND (b OR c)) <= ?) AND ((name) LIKE ?) " ++
          "AND ((d) AND e > ?)") =
        ["(? <= (f(a) AND (b OR c)))", "((f(a) AND (b OR c)) <= ?)", "((name) LIKE ?)",
          "((d) AND e > ?)"] := by
  have htargets : ∀ column ∈ nested.strategies.names, ∀ text,
      (nested.target column).written = .ok text → IsBalanced text := by
    intro column hcolumn text htext
    have hnames : column = "age" ∨ column = "name" := by simpa [nested, Entries.names] using hcolumn
    rcases hnames with rfl | rfl
    · rw [← Except.ok.inj htext]
      decide
    · rw [← Except.ok.inj htext]
      decide
  have hadditional : ∀ f,
      Condition.ofAdditional (.tuple [.text "(d) AND e > ?", .int 3]) = .ok (some f) →
        IsBalanced f.expression := by
    intro f hf
    rw [← Option.some.inj (Except.ok.inj hf)]
    decide
  have h : nested.compile [(.text "age_from", .int 20), (.text "name", .text "Tom")]
      (.tuple [.text "(d) AND e > ?", .int 3]) =
        .ok ⟨"(? <= (f(a) AND (b OR c))) AND ((f(a) AND (b OR c)) <= ?) AND ((name) LIKE ?) AND " ++
          "((d) AND e > ?)", [.int 20, .int 20, .text "%Tom%", .int 3]⟩ := by rfl
  refine ⟨htargets, hadditional, h, ?_⟩
  obtain ⟨groups, further, hgroups, hfurther, hconjuncts⟩ :=
    conjuncts_of_compile htargets hadditional h (by decide)
  obtain rfl := Except.ok.inj hgroups
  obtain rfl := Except.ok.inj hfurther
  exact hconjuncts

end Schema

end Searchable
