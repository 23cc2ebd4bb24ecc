import Searchable.Proofs.Schema.Forms
import Searchable.Proofs.Schema.Table
import Searchable.Proofs.Statement.Spacing

/-!
# Compiled conditions keep their placeholders apart

Each clause that a strategy asks for has its only placeholder next to a space or a parenthesis,
since a target with a placeholder of its own is refused (`Clause.IsOver.isSpaced`). Joining
clauses puts parentheses and spaces between them (`Condition.isSpaced_conjunction`) and adds up
their placeholders (`Condition.placeholders_conjunction`). So in the condition that compiling
results in, only the further condition of the caller can have placeholders that touch something, or
more or fewer of them than parameters (`Schema.exists_clauses`, `Condition.arity_ofClauses`).
-/

namespace Searchable

/-- A text between parentheses is as spaced as without them. -/
theorem IsSpaced.parenthesised {text : String} (h : IsSpaced text) :
    IsSpaced (parenthesised text) := by
  have hclose : SpacedAfter none (text.toList ++ ')' :: []) := h.append_cons (by decide) trivial
  have hopen : SpacedAfter none ([] ++ '(' :: (text.toList ++ ')' :: [])) :=
    SpacedAfter.append_cons trivial (by decide) hclose
  unfold IsSpaced Searchable.parenthesised
  rw [String.toList_append, String.toList_append, List.append_assoc]
  exact hopen

/-- What follows parentheses may touch them. -/
theorem IsSpaced.parenthesised_append {text ending : String} (h : IsSpaced text)
    (hending : IsSpaced ending) : IsSpaced (Searchable.parenthesised text ++ ending) := by
  have hclose : SpacedAfter none (text.toList ++ ')' :: ending.toList) :=
    h.append_cons (by decide) hending
  have hopen : SpacedAfter none ([] ++ '(' :: (text.toList ++ ')' :: ending.toList)) :=
    SpacedAfter.append_cons trivial (by decide) hclose
  unfold IsSpaced Searchable.parenthesised
  rw [String.toList_append, String.toList_append, String.toList_append, List.append_assoc,
    List.append_assoc]
  exact hopen

/-- What comes before parentheses may touch them. -/
theorem IsSpaced.append_parenthesised {text start : String} (hstart : IsSpaced start)
    (h : IsSpaced text) : IsSpaced (start ++ Searchable.parenthesised text) := by
  have hclose : SpacedAfter none (text.toList ++ ')' :: []) := h.append_cons (by decide) trivial
  have hopen : SpacedAfter none (start.toList ++ '(' :: (text.toList ++ ')' :: [])) :=
    hstart.append_cons (by decide) hclose
  unfold IsSpaced Searchable.parenthesised
  rw [String.toList_append, String.toList_append, String.toList_append, List.append_assoc]
  exact hopen

/-- A text without placeholders is spaced. -/
theorem isSpaced_of_placeholders {text : String} (h : placeholders text = 0) : IsSpaced text :=
  spacedAfter_of_not_mem (placeholders_eq_zero.mp h)

/-- What strategies put after a target is spaced and has one placeholder. -/
theorem isSpaced_of_mem_endings :
    ∀ ending ∈ Strategy.endings, IsSpaced ending ∧ placeholders ending = 1 := by
  decide

/-- A clause over a target is spaced, as its only placeholder is not one of the target. -/
theorem Clause.IsOver.isSpaced {target : String} {c : Clause}
    (h : c.IsOver (parenthesised target)) : IsSpaced c.text := by
  have hone : placeholders c.text = 1 := c.aligned.trans h.single
  rcases h.form with htext | ⟨ending, hending, htext⟩
  · rw [htext, placeholders_before] at hone
    rw [htext]
    exact IsSpaced.append_parenthesised (by decide) (isSpaced_of_placeholders (by omega))
  · obtain ⟨hspaced, hending⟩ := isSpaced_of_mem_endings ending hending
    rw [htext, placeholders_after ending hending] at hone
    rw [htext]
    exact (isSpaced_of_placeholders (by omega)).parenthesised_append hspaced

namespace Condition

/-- Joined texts between parentheses are spaced when each of them is. -/
theorem isSpaced_conjunction {texts : List String} (h : ∀ text ∈ texts, IsSpaced text) :
    IsSpaced (conjunction texts) := by
  unfold conjunction
  induction texts with
  | nil => exact trivial
  | cons a texts ih =>
    have ha := (h a List.mem_cons_self).parenthesised
    cases texts with
    | nil => simpa using ha
    | cons b texts =>
      have hrest := ih fun text ht => h text (List.mem_cons_of_mem a ht)
      rw [List.map_cons] at hrest
      rw [List.map_cons, List.map_cons, String.intercalate_cons_cons]
      -- The joining text starts and ends with a space.
      have hspace : SpacedAfter none ("AND".toList ++ ' ' ::
          (" AND ".intercalate (parenthesised b :: texts.map parenthesised)).toList) :=
        SpacedAfter.append_cons (by decide) (by decide) hrest
      have hjoin := ha.append_cons (n := ' ') (by decide) hspace
      unfold IsSpaced
      rw [String.toList_append, String.toList_append, List.append_assoc]
      exact hjoin

/-- The condition of clauses has a parameter for each placeholder exactly when the further condition
has, if it does not always hold. -/
theorem arity_ofClauses (cs : List Clause) (further : Option Condition) :
    placeholders (ofClauses cs further).expression = (ofClauses cs further).params.length ↔
      ∀ f ∈ further.filter fun c => !c.isEmpty, placeholders f.expression = f.params.length := by
  unfold ofClauses
  rw [placeholders_conjunction, List.flatMap_append, List.count_append, List.length_append,
    count_texts, Nat.add_left_cancel_iff]
  cases further with
  | none => simp
  | some f => cases hempty : f.isEmpty <;> simp [hempty, placeholders]

/-- The condition of spaced clauses is spaced if the further condition is. -/
theorem isSpaced_ofClauses {cs : List Clause} {further : Option Condition}
    (hcs : ∀ c ∈ cs, IsSpaced c.text)
    (hfurther : ∀ f ∈ further.filter fun c => !c.isEmpty, IsSpaced f.expression) :
    IsSpaced (ofClauses cs further).expression := by
  refine isSpaced_conjunction ?_
  rw [List.forall_mem_append, List.forall_mem_map, List.forall_mem_map]
  refine ⟨hcs, ?_⟩
  intro f hf
  obtain ⟨hmem, hlast⟩ := List.mem_filter.mp hf
  rw [Option.mem_toList] at hmem
  exact hfurther f (Option.filter_eq_some_iff.mpr ⟨hmem, hlast⟩)

end Condition

namespace Schema

variable {s : Schema}

/-- A compiled condition is made of spaced clauses and of what the caller adds. -/
theorem exists_clauses {criteria : Criteria} {additional : Value} {r : Condition}
    (h : s.compile criteria additional = .ok r) :
    ∃ cs further, (∀ c ∈ cs, IsSpaced c.text) ∧
      Condition.ofAdditional additional = .ok further ∧ r = .ofClauses cs further := by
  unfold compile at h
  obtain ⟨groups, hgroups, h⟩ := bind_eq_ok_iff.mp h
  obtain ⟨further, hfurther, h⟩ := bind_eq_ok_iff.mp h
  refine ⟨groups.flatten, further, fun c hc => ?_, mapError_eq_ok_iff.mp hfurther,
    (Except.ok.inj h).symm⟩
  obtain ⟨_, _, _, _, _, _, hover⟩ := isOver_of_criteriaGroups hgroups c hc
  exact hover.isSpaced

end Schema

end Searchable
