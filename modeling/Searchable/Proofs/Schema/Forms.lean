import Searchable.Proofs.Criteria.Gathering
import Searchable.Schema.Compile

/-!
# The forms of clauses

Each clause that a strategy asks for has one parameter, and its text is that of the target with a
placeholder before or after it (`Strategy.isOver_of_clauses`). The clauses that criteria come to
have these forms over targets of declared columns (`Schema.isOver_of_criteriaGroups`), since a
column that criteria mention is one that is written as such (`Criteria.text?_of_fold`) and is
declared. What is to hold of all clauses is shown of the two forms.
-/

namespace Searchable

/-- A clause that is made has the text and the parameters that were asked for. -/
theorem clause_eq_ok {text : String} {params : List Value} {c : Clause}
    (h : clause text params = .ok c) : c.text = text ∧ c.params = params := by
  unfold clause at h
  rw [mapError_eq_ok_iff] at h
  unfold Clause.make at h
  split at h
  · rw [← Except.ok.inj h]
    exact ⟨rfl, rfl⟩
  · cases h

/-- The texts that strategies put after a target. -/
def Strategy.endings : List String :=
  [" = ?", " LIKE ?", " <= ?", " IN (?)"]

/-- Whether a clause asks something of a target. -/
structure Clause.IsOver (target : String) (c : Clause) : Prop where
  /-- There is one parameter. -/
  single : c.params.length = 1
  /-- The placeholder comes before the target or after it. -/
  form : c.text = "? <= " ++ target ∨ ∃ ending ∈ Strategy.endings, c.text = target ++ ending

namespace Strategy

variable {target : String} {c : Clause} {cs : List Clause} {v low high : Value}

/-- A clause with its placeholder before the target is one over it. -/
theorem isOver_of_lowClause (h : lowClause target v = .ok c) : c.IsOver target := by
  obtain ⟨htext, hparams⟩ := clause_eq_ok h
  exact ⟨congrArg List.length hparams, .inl htext⟩

/-- A clause with its placeholder after the target is one over it. -/
theorem isOver_of_clause_after {ending : String} (hending : ending ∈ endings)
    (h : clause (target ++ ending) [v] = .ok c) : c.IsOver target := by
  obtain ⟨htext, hparams⟩ := clause_eq_ok h
  exact ⟨congrArg List.length hparams, .inr ⟨ending, hending, htext⟩⟩

/-- The clause for an upper bound is one over the target. -/
theorem isOver_of_highClause (h : highClause target v = .ok c) : c.IsOver target :=
  isOver_of_clause_after (by decide) h

/-- The only clause is one over the target. -/
theorem isOver_of_single {outcome : Except Failure Clause}
    (hc : ∀ c, outcome = .ok c → c.IsOver target) (h : outcome.map ([·]) = .ok cs) :
    ∀ c ∈ cs, c.IsOver target := by
  obtain ⟨c, hok, rfl⟩ := map_eq_ok_iff.1 h
  rw [List.forall_mem_singleton]
  exact hc c hok

/-- The clause for a bound, which there is none of for a blank one, is one over the target. -/
theorem isOver_of_bound {bound : Value} {outcome : Except Failure Clause}
    (hc : ∀ c, outcome = .ok c → c.IsOver target)
    (h : (if bound.isBlank then .ok [] else outcome.map ([·])) = .ok cs) :
    ∀ c ∈ cs, c.IsOver target := by
  split at h
  · rw [← Except.ok.inj h]
    exact List.forall_mem_nil _
  · exact isOver_of_single hc h

/-- The clauses of a closed range are over the target. -/
theorem isOver_of_closedClauses (h : closedClauses target low high = .ok cs) :
    ∀ c ∈ cs, c.IsOver target := by
  unfold closedClauses at h
  split at h
  · rw [← Except.ok.inj h]
    exact List.forall_mem_nil _
  · obtain ⟨lower, hlower, h⟩ := bind_eq_ok_iff.1 h
    obtain ⟨upper, hupper, h⟩ := bind_eq_ok_iff.1 h
    rw [← Except.ok.inj h, List.forall_mem_cons, List.forall_mem_singleton]
    exact ⟨isOver_of_lowClause hlower, isOver_of_highClause hupper⟩

/-- The clauses of an open range, without the shared continuation that the notation for optional
steps makes. -/
theorem openClauses_eq (target : String) (low high : Value) :
    openClauses target low high =
      (if low.isBlank then .ok [] else (lowClause target low).map ([·])) >>= fun lower =>
        (if high.isBlank then .ok [] else (highClause target high).map ([·])) >>= fun upper =>
          .ok (lower ++ upper) := by
  unfold openClauses
  cases low.isBlank <;> cases high.isBlank <;> rfl

/-- The clauses of an open range are over the target. -/
theorem isOver_of_openClauses (h : openClauses target low high = .ok cs) :
    ∀ c ∈ cs, c.IsOver target := by
  rw [openClauses_eq] at h
  obtain ⟨lower, hlower, h⟩ := bind_eq_ok_iff.1 h
  obtain ⟨upper, hupper, h⟩ := bind_eq_ok_iff.1 h
  rw [← Except.ok.inj h, List.forall_mem_append]
  exact ⟨isOver_of_bound (fun _ => isOver_of_lowClause) hlower,
    isOver_of_bound (fun _ => isOver_of_highClause) hupper⟩

/-- The clauses of a strategy are over the target. -/
theorem isOver_of_clauses {s : Strategy} {column : Value}
    (h : s.clauses column target v = .ok cs) : ∀ c ∈ cs, c.IsOver target := by
  unfold clauses at h
  cases s with
  | matchFull => exact isOver_of_single (fun _ => isOver_of_clause_after (by decide)) h
  | matchPartial =>
    obtain ⟨sought, -, h⟩ := bind_eq_ok_iff.1 h
    exact isOver_of_single (fun _ => isOver_of_clause_after (by decide)) h
  | closedRange =>
    obtain ⟨⟨low, high⟩, -, h⟩ := bind_eq_ok_iff.1 h
    exact isOver_of_closedClauses h
  | openRange =>
    obtain ⟨⟨low, high⟩, -, h⟩ := bind_eq_ok_iff.1 h
    exact isOver_of_openClauses h
  | including => exact isOver_of_single (fun _ => isOver_of_clause_after (by decide)) h

end Strategy

namespace Criteria

/-- Columns that criteria mention are written as such. -/
theorem text?_of_fold {ranges : Option (Entries Strategy)} {criteria : Criteria}
    {columns : Entries Mention} (h : fold ranges criteria = .ok columns) :
    ∀ e ∈ columns, e.2.written.text? = some e.1 := by
  rintro ⟨column, m⟩ he
  have hall := mapError_eq_ok_iff.1 h
  have hnodup : columns.names.Nodup := nodup_names_of_gatherAll (by simp [Entries.names]) hall
  have hm : columns.get? column = some m := Entries.get?_of_mem hnodup he
  cases comesFrom_of_gatherAll hall hm with
  | whole _ hkey _ => exact hkey
  | bounds low high => rfl

end Criteria

namespace Schema

variable {s : Schema}

/-- Columns that are not refused are declared. -/
theorem declared_of_checkDeclared {columns : Entries Mention}
    (h : s.checkDeclared columns = .ok ()) : ∀ e ∈ columns, e.1 ∈ s.strategies.names := by
  induction columns with
  | nil => exact List.forall_mem_nil _
  | cons e columns ih =>
    obtain ⟨column, m⟩ := e
    rw [checkDeclared] at h
    split at h
    · rename_i hdeclared
      exact List.forall_mem_cons.2 ⟨Entries.contains_iff.1 hdeclared, ih h⟩
    · cases h

/-- The clauses of a column are over the text of its target. -/
theorem isOver_of_clausesOf {column : String} {m : Mention} {cs : List Clause}
    (h : s.clausesOf column m = .ok cs) :
    ∀ c ∈ cs, ∃ text, (s.targetOf column m.written).written = .ok text ∧
      c.IsOver (parenthesised text) := by
  unfold clausesOf at h
  split at h
  · rw [← Except.ok.inj h]
    exact List.forall_mem_nil _
  · split at h
    · cases h
    · obtain ⟨target, htarget, h⟩ := bind_eq_ok_iff.1 h
      unfold targetText at htarget
      obtain ⟨text, htext, rfl⟩ := map_eq_ok_iff.1 (mapError_eq_ok_iff.1 htarget)
      exact fun c hc => ⟨text, htext, Strategy.isOver_of_clauses h c hc⟩

/-- The clauses of several columns are over the texts of their targets. -/
theorem isOver_of_groups {columns : Entries Mention} {groups : List (List Clause)}
    (h : s.groups columns = .ok groups) :
    ∀ c ∈ groups.flatten, ∃ e ∈ columns, ∃ text,
      (s.targetOf e.1 e.2.written).written = .ok text ∧ c.IsOver (parenthesised text) := by
  induction columns generalizing groups with
  | nil =>
    rw [← Except.ok.inj h]
    exact List.forall_mem_nil _
  | cons e columns ih =>
    obtain ⟨group, hgroup, h⟩ := bind_eq_ok_iff.1 h
    obtain ⟨others, hothers, h⟩ := bind_eq_ok_iff.1 h
    rw [← Except.ok.inj h, List.flatten_cons, List.forall_mem_append]
    refine ⟨fun c hc => ⟨e, List.mem_cons_self, isOver_of_clausesOf hgroup c hc⟩, fun c hc => ?_⟩
    obtain ⟨other, hother, hover⟩ := ih hothers c hc
    exact ⟨other, List.mem_cons_of_mem e hother, hover⟩

/-- The clauses that criteria come to are over targets of declared columns, in the form in which the
columns are written. -/
theorem isOver_of_criteriaGroups {criteria : Criteria} {groups : List (List Clause)}
    (h : s.criteriaGroups criteria = .ok groups) :
    ∀ c ∈ groups.flatten, ∃ column ∈ s.strategies.names, ∃ written text,
      written.text? = some column ∧ (s.targetOf column written).written = .ok text ∧
        c.IsOver (parenthesised text) := by
  obtain ⟨columns, hfold, h⟩ := bind_eq_ok_iff.1 h
  obtain ⟨_, hdeclared, h⟩ := bind_eq_ok_iff.1 h
  intro c hc
  obtain ⟨e, he, text, htext, hover⟩ := isOver_of_groups h c hc
  exact ⟨e.1, declared_of_checkDeclared hdeclared e he, e.2.written, text,
    Criteria.text?_of_fold hfold e he, htext, hover⟩

end Schema

end Searchable
