import Searchable.Proofs.Condition.Nesting

/-!
# Conditions built step by step

A builder is given texts with parameters, here rows. It takes a row if the parameters are as many as
the placeholders of the text, and what else is done with it leaves no trace: after any steps it has
the rows of those that add one (`Builder.rows_run`, by induction on the steps from the effect of
one). Joining texts puts only parentheses and ` AND ` between them, so that it adds no placeholders
(`Condition.placeholders_conjunction`) and later texts leave the earlier ones where they are
(`Condition.exists_conjunction_append`). Together this keeps the placeholders of a condition that is
built in line with its parameters (`Builder.run_spec`).
-/

namespace Searchable

/-- A text with parameters, such as a line of the table of strategies. -/
structure Row where
  /-- The text of a clause, with a `?` for each parameter. -/
  text : String
  /-- The parameters. -/
  params : List Value

/-- The text and the parameters of a clause. -/
def Clause.row (c : Clause) : Row :=
  ⟨c.text, c.params⟩

/-- The placeholders of two texts, one after the other. -/
theorem placeholders_append (a b : String) :
    placeholders (a ++ b) = placeholders a + placeholders b := by
  rw [placeholders, String.toList_append, List.count_append, placeholders, placeholders]

/-- Parentheses have no placeholder. -/
theorem placeholders_parenthesised (s : String) :
    placeholders (parenthesised s) = placeholders s := by
  rw [parenthesised, placeholders_append, placeholders_append]
  have ho : placeholders "(" = 0 := by decide
  have hc : placeholders ")" = 0 := by decide
  omega

/-- A text without a `?` has no placeholder. -/
theorem placeholders_eq_zero {s : String} : placeholders s = 0 ↔ '?' ∉ s.toList :=
  List.count_eq_zero

namespace Condition

/-- Joined texts have the placeholders of all of them. -/
theorem placeholders_conjunction (texts : List String) :
    placeholders (conjunction texts) = (texts.flatMap String.toList).count '?' := by
  unfold conjunction
  induction texts with
  | nil => rfl
  | cons a texts ih =>
    rw [List.flatMap_cons, List.count_append, ← ih]
    cases texts with
    | nil =>
      rw [List.map_singleton, String.intercalate_singleton, placeholders_parenthesised]
      rfl
    | cons b texts =>
      have hjoin : placeholders " AND " = 0 := by decide
      rw [List.map_cons, List.map_cons, String.intercalate_cons_cons, placeholders_append,
        placeholders_append, placeholders_parenthesised, hjoin]
      rfl

/-- Clauses have a parameter for each placeholder of all their texts. -/
theorem count_texts (cs : List Clause) :
    ((cs.map Clause.text).flatMap String.toList).count '?' = (cs.flatMap Clause.params).length := by
  induction cs with
  | nil => rfl
  | cons c cs ih =>
    have haligned : c.text.toList.count '?' = c.params.length := c.aligned
    rw [List.map_cons, List.flatMap_cons, List.count_append, List.flatMap_cons,
      List.length_append, ih, haligned]

/-- The texts before some others are joined to them by ` AND `. -/
theorem conjunction_append {texts others : List String} (h : texts ≠ []) (ho : others ≠ []) :
    conjunction (texts ++ others) = conjunction texts ++ " AND " ++ conjunction others := by
  have hmap : texts.map parenthesised ≠ [] := mt List.map_eq_nil_iff.1 h
  have hmapo : others.map parenthesised ≠ [] := mt List.map_eq_nil_iff.1 ho
  rw [conjunction, List.map_append, String.intercalate_append_of_ne_nil hmap hmapo]
  rfl

/-- A last text is joined to those before it, if there are any. -/
theorem conjunction_concat (texts : List String) (text : String) :
    conjunction (texts ++ [text]) =
      (if texts = [] then "" else conjunction texts ++ " AND ") ++ parenthesised text := by
  have hone : conjunction [text] = parenthesised text := by
    rw [conjunction, List.map_singleton, String.intercalate_singleton]
  by_cases h : texts = []
  · rw [h, List.nil_append, hone, if_pos rfl, String.empty_append]
  · rw [conjunction_append h (by simp), hone, if_neg h]

/-- Joined texts begin with the first of them as joined. -/
theorem exists_conjunction_append (texts others : List String) :
    ∃ rest, conjunction (texts ++ others) = conjunction texts ++ rest := by
  by_cases h : texts = []
  · exact ⟨conjunction others, by rw [h, List.nil_append, conjunction, conjunction]; simp⟩
  · by_cases ho : others = []
    · exact ⟨"", by rw [ho, List.append_nil, String.append_empty]⟩
    · exact ⟨" AND " ++ conjunction others, by rw [conjunction_append h ho, String.append_assoc]⟩

/-- The texts of some clauses as joined have a placeholder for each of their parameters. -/
theorem placeholders_texts (cs : List Clause) :
    placeholders (conjunction (cs.map Clause.text)) = (cs.flatMap Clause.params).length := by
  rw [placeholders_conjunction, count_texts]

/-- The rows of clauses have their texts. -/
theorem map_text_rows (cs : List Clause) :
    (cs.map Clause.row).map Row.text = cs.map Clause.text := by
  rw [List.map_map]
  rfl

/-- The rows of clauses have their parameters. -/
theorem flatMap_params_rows (cs : List Clause) :
    (cs.map Clause.row).flatMap Row.params = cs.flatMap Clause.params := by
  rw [List.flatMap_map]
  rfl

/-- A further condition with an expression is joined like a clause. -/
theorem ofClauses_of_nonempty (cs : List Clause) {last : Condition} (h : last.expression ≠ "") :
    ofClauses cs (some last) =
      ⟨conjunction (cs.map Clause.text ++ [last.expression]),
        cs.flatMap Clause.params ++ last.params⟩ := by
  have hkept : (some last).toList.filter (fun c => !c.isEmpty) = [last] := by
    simp [isEmpty, h]
  rw [ofClauses, hkept, List.map_singleton, List.flatMap_singleton]

/-- A further condition without an expression is left out. -/
theorem ofClauses_of_empty (cs : List Clause) {further : Option Condition}
    (h : ∀ last ∈ further, last.expression = "") :
    ofClauses cs further = ⟨conjunction (cs.map Clause.text), cs.flatMap Clause.params⟩ := by
  have hkept : further.toList.filter (fun c => !c.isEmpty) = [] := by
    cases further with
    | none => rfl
    | some last => simp [isEmpty, h last rfl]
  rw [ofClauses, hkept, List.map_nil, List.append_nil, List.flatMap_nil, List.append_nil]

/-- Whether a condition is made of rows and a further condition. -/
structure IsMadeOf (c : Condition) (rows : List Row) (further : Option Condition) : Prop where
  /-- The texts of the first rows, as joined, begin the expression. -/
  begins : ∀ j, ∃ rest, c.expression = conjunction ((rows.take j).map Row.text) ++ rest
  /-- They have as many placeholders as there are parameters of these rows. -/
  aligned : ∀ j, placeholders (conjunction ((rows.take j).map Row.text)) =
    ((rows.take j).flatMap Row.params).length
  /-- These parameters begin those of the condition. -/
  leads : ∀ j, (rows.take j).flatMap Row.params <+: c.params
  /-- A further condition with an expression comes last, between parentheses. -/
  ends : ∀ last ∈ further, last.expression ≠ "" →
    c = ⟨(if rows = [] then "" else conjunction (rows.map Row.text) ++ " AND ") ++
        parenthesised last.expression, rows.flatMap Row.params ++ last.params⟩
  /-- One without an expression adds nothing. -/
  alone : (∀ last ∈ further, last.expression = "") →
    c = ⟨conjunction (rows.map Row.text), rows.flatMap Row.params⟩
  /-- Without an expression there are no parameters. -/
  vacuous : c.expression = "" → c.params = []

/-- Clauses and a further condition are made into a condition of their rows. -/
theorem isMadeOf_ofClauses (cs : List Clause) (further : Option Condition) :
    (ofClauses cs further).IsMadeOf (cs.map Clause.row) further where
  begins j := by
    -- After the first texts come those of the other clauses and of the further condition.
    have hsplit : cs.map Clause.text =
        (cs.take j).map Clause.text ++ (cs.drop j).map Clause.text := by
      rw [← List.map_append, List.take_append_drop]
    rw [← List.map_take, map_text_rows, ofClauses, hsplit, List.append_assoc]
    exact exists_conjunction_append _ _
  aligned j := by
    rw [← List.map_take, map_text_rows, flatMap_params_rows, placeholders_texts]
  leads j := by
    have hsplit : cs.flatMap Clause.params =
        (cs.take j).flatMap Clause.params ++ (cs.drop j).flatMap Clause.params := by
      rw [← List.flatMap_append, List.take_append_drop]
    rw [← List.map_take, flatMap_params_rows, ofClauses, hsplit, List.append_assoc]
    exact List.prefix_append _ _
  ends last hlast hne := by
    obtain rfl : further = some last := hlast
    have hnil : cs.map Clause.row = [] ↔ cs.map Clause.text = [] := by
      rw [List.map_eq_nil_iff, List.map_eq_nil_iff]
    rw [ofClauses_of_nonempty cs hne, conjunction_concat, map_text_rows, flatMap_params_rows]
    simp only [hnil]
  alone hempty := by
    rw [ofClauses_of_empty cs hempty, map_text_rows, flatMap_params_rows]
  vacuous hexpression := by
    -- Nothing is joined, so that nothing has brought parameters either.
    obtain ⟨hcs, hlast⟩ := List.append_eq_nil_iff.1 (conjunction_eq_empty_iff.1 hexpression)
    rw [ofClauses, List.map_eq_nil_iff.1 hcs, List.map_eq_nil_iff.1 hlast]
    rfl

end Condition

namespace Builder

variable {b : Builder} {text : String} {params : List Value}

/-- The rows of the clauses so far. -/
def rows (b : Builder) : List Row :=
  b.clauses.map Clause.row

/-- The row that a step adds: one with a parameter for each placeholder. -/
def Step.row? : Step → Option Row
  | .add text params => if placeholders text = params.length then some ⟨text, params⟩ else none
  | .build _ => none

/-- Adding a row that has a parameter for each placeholder. -/
theorem step_add_of_fit (h : placeholders text = params.length) (b : Builder) :
    b.step (.add text params) = (⟨b.clauses ++ [⟨text, params, h⟩]⟩, .ok none) := by
  rw [step, add, Clause.make, dif_pos h]
  rfl

/-- Adding a row with too many or too few parameters. -/
theorem step_add_of_unfit (h : placeholders text ≠ params.length) (b : Builder) :
    b.step (.add text params) =
      (b, .error (.clauseArity text (placeholders text) params.length)) := by
  rw [step, add, Clause.make, dif_neg h]
  rfl

/-- A step adds its row. -/
theorem rows_step (b : Builder) (s : Step) : (b.step s).1.rows = b.rows ++ s.row?.toList := by
  cases s with
  | add text params =>
    by_cases h : placeholders text = params.length
    · rw [step_add_of_fit h, Step.row?, if_pos h, rows, List.map_append]
      rfl
    · -- A refused row leaves no trace.
      rw [step_add_of_unfit h, Step.row?, if_neg h, Option.toList_none, List.append_nil]
  | build further => rw [step, Step.row?, Option.toList_none, List.append_nil]

/-- Some steps add their rows in order. -/
theorem rows_run (b : Builder) (steps : List Step) :
    (b.run steps).rows = b.rows ++ steps.filterMap Step.row? := by
  -- The later steps start from the builder that the first one leaves, so it is arbitrary.
  induction steps generalizing b with
  | nil => rw [run, List.foldl_nil, List.filterMap_nil, List.append_nil]
  | cons s steps ih =>
    have hrun : b.run (s :: steps) = (b.step s).1.run steps := rfl
    rw [hrun, ih, rows_step, List.append_assoc, List.filterMap_cons]
    cases s.row? <;> rfl

/-- After any steps a builder has the rows of those that add one, and it takes exactly the rows that
have a parameter for each placeholder. Refusing another leaves it as it is, and so does building a
condition, which is made of its rows and the further condition. -/
theorem run_spec (steps : List Step) :
    (empty.run steps).rows = steps.filterMap Step.row? ∧
      (empty.run steps).size = steps.countP (·.row?.isSome) ∧
      (∀ text params, placeholders text = params.length →
        ((empty.run steps).step (.add text params)).2 = .ok none) ∧
      (∀ text params, placeholders text ≠ params.length →
        ∃ m : Misuse, m = .clauseArity text (placeholders text) params.length ∧
          m.name = "ValueError" ∧
          (empty.run steps).step (.add text params) = (empty.run steps, .error m)) ∧
      ∀ further, ∃ c : Condition,
        (empty.run steps).step (.build further) = (empty.run steps, .ok (some c)) ∧
          c.IsMadeOf (steps.filterMap Step.row?) further := by
  have hrows : (empty.run steps).rows = steps.filterMap Step.row? := rows_run empty steps
  refine ⟨hrows, ?_, ?_, ?_, ?_⟩
  · calc (empty.run steps).size
        = (empty.run steps).rows.length := List.length_map _ |>.symm
      _ = steps.countP (·.row?.isSome) := by rw [hrows, List.length_filterMap_eq_countP]
  · intro text params h
    rw [step_add_of_fit h]
  · intro text params h
    exact ⟨_, rfl, rfl, step_add_of_unfit h _⟩
  · intro further
    refine ⟨_, rfl, ?_⟩
    rw [← hrows]
    exact Condition.isMadeOf_ofClauses _ further

/-- A refused row and a condition that is built in between do not show in a later one. -/
example : ((empty.run [.add "a = ?" [.int 1], .add "b = ?" [], .build (some ⟨"c", []⟩),
    .add "? <= d" [.int 2]]).build none) = ⟨"(a = ?) AND (? <= d)", [.int 1, .int 2]⟩ := rfl

end Builder

end Searchable
