/-!
# Chains of steps that may fail

When an outcome that is made of others succeeds or fails. A step that fails ends the chain, so that
each lemma says what the steps before the end come to, and a list that is gone through item by item
ends at the first item that fails (`mapM_eq_error_iff`). Two chains go together if they fail at the
same step or succeed with related results (`Together`). A chain fails only in a way of some kind if
each of its steps does (`FailsOnly`).
-/

namespace Searchable

/-- What is made of an outcome fails exactly when the outcome does. -/
theorem map_eq_error_iff {ε α β : Type} {f : α → β} {r : Except ε α} {e : ε} :
    r.map f = .error e ↔ r = .error e := by
  cases r <;> simp [Except.map]

/-- What is made of an outcome succeeds exactly when the outcome does. -/
theorem map_eq_ok_iff {ε α β : Type} {f : α → β} {r : Except ε α} {b : β} :
    r.map f = .ok b ↔ ∃ a, r = .ok a ∧ f a = b := by
  cases r <;> simp [Except.map]

/-- What goes on from an outcome succeeds exactly when both do. -/
theorem bind_eq_ok_iff {ε α β : Type} {r : Except ε α} {f : α → Except ε β} {b : β} :
    (r >>= f) = .ok b ↔ ∃ a, r = .ok a ∧ f a = .ok b := by
  cases r <;> simp [bind, Except.bind]

/-- Where only the errors are changed, a success stays as it is. -/
theorem mapError_ok {ε ε' α : Type} (f : ε → ε') (a : α) :
    (Except.ok a : Except ε α).mapError f = .ok a := rfl

/-- Where only the errors are changed, an error is. -/
theorem mapError_error {ε ε' α : Type} (f : ε → ε') (e : ε) :
    (Except.error e : Except ε α).mapError f = .error (f e) := rfl

/-- Where only the errors are changed, the successes are the same. -/
theorem mapError_eq_ok_iff {ε ε' α : Type} {f : ε → ε'} {r : Except ε α} {a : α} :
    r.mapError f = .ok a ↔ r = .ok a := by
  cases r <;> simp [mapError_ok, mapError_error]

/-- The first item of its kind in a list is the head, or it is the first in the tail and the head is
not of the kind. What is said of it may depend on what is before it. -/
theorem exists_first_cons_iff {α : Type} {passes : α → Prop} {first : List α → α → Prop} {a : α}
    {as : List α} :
    (∃ before v after, a :: as = before ++ v :: after ∧ (∀ b ∈ before, passes b) ∧ first before v) ↔
      first [] a ∨ passes a ∧ ∃ before v after, as = before ++ v :: after ∧
        (∀ b ∈ before, passes b) ∧ first (a :: before) v := by
  constructor
  · rintro ⟨before, v, after, hsplit, hbefore, hv⟩
    cases before with
    | nil =>
      obtain ⟨rfl, -⟩ := List.cons.inj hsplit
      exact .inl hv
    | cons b before =>
      obtain ⟨rfl, rfl⟩ := List.cons.inj hsplit
      obtain ⟨ha, hrest⟩ := List.forall_mem_cons.1 hbefore
      exact .inr ⟨ha, before, v, after, rfl, hrest, hv⟩
  · rintro (ha | ⟨ha, before, v, after, rfl, hbefore, hv⟩)
    · exact ⟨[], a, as, rfl, List.forall_mem_nil _, ha⟩
    · exact ⟨a :: before, v, after, rfl, List.forall_mem_cons.2 ⟨ha, hbefore⟩, hv⟩

/-- A list is gone through in vain exactly if there is an item that fails after others that do not,
and for the reason of the first such item. -/
theorem mapM_eq_error_iff {ε α β : Type} {f : α → Except ε β} {as : List α} {e : ε} :
    as.mapM f = .error e ↔ ∃ before a after, as = before ++ a :: after ∧
      (∀ b ∈ before, ∃ v, f b = .ok v) ∧ f a = .error e := by
  induction as with
  | nil => simp [pure, Except.pure]
  | cons a as ih =>
    rw [List.mapM_cons]
    refine Iff.trans ?_ exists_first_cons_iff.symm
    cases ha : f a with
    | error g => simp [bind, Except.bind]
    | ok v =>
      have hrest : ((as.mapM f) >>= fun vs => pure (v :: vs)) = .error e ↔ as.mapM f = .error e :=
        map_eq_error_iff
      show ((as.mapM f) >>= fun vs => pure (v :: vs)) = .error e ↔ _
      rw [hrest, ih]
      simp

/-- Whether two outcomes go together: both fail, for whatever reasons, or both succeed, with results
that are related. -/
inductive Together {ε α β : Type} (r : α → β → Prop) : Except ε α → Except ε β → Prop where
  /-- Both fail. -/
  | failed (e f : ε) : Together r (.error e) (.error f)
  /-- Both succeed. -/
  | done {a : α} {b : β} (h : r a b) : Together r (.ok a) (.ok b)

namespace Together

variable {ε α β α' β' : Type} {r : α → β → Prop} {q : α' → β' → Prop} {o : Except ε α}
  {p : Except ε β}

/-- Chains go together whose first steps do, if what follows does after related results. -/
theorem bind {f : α → Except ε α'} {g : β → Except ε β'} (h : Together r o p)
    (hfg : ∀ a b, r a b → Together q (f a) (g b)) : Together q (o >>= f) (p >>= g) := by
  cases h with
  | failed e f => exact .failed e f
  | done hab => exact hfg _ _ hab

/-- Chains go together after the same first step, if what follows its result does. -/
theorem bind_same {s : Except ε α} {f : α → Except ε α'} {g : α → Except ε β'}
    (hfg : ∀ a, s = .ok a → Together q (f a) (g a)) : Together q (s >>= f) (s >>= g) := by
  cases s with
  | error e => exact .failed e e
  | ok a => exact hfg a rfl

/-- What is made of outcomes that go together goes together. -/
theorem map {f : α → α'} {g : β → β'} (h : Together r o p) (hfg : ∀ a b, r a b → q (f a) (g b)) :
    Together q (o.map f) (p.map g) := by
  cases h with
  | failed e f => exact .failed e f
  | done hab => exact .done (hfg _ _ hab)

/-- The reasons of failures do not count. -/
theorem mapError {ε' : Type} {f g : ε → ε'} (h : Together r o p) :
    Together r (o.mapError f) (p.mapError g) := by
  cases h with
  | failed e e' => exact .failed (f e) (g e')
  | done hab => exact .done hab

/-- Outcomes of which both succeed or neither go together. -/
theorem of_isOk (h : o.isOk = p.isOk) : Together (fun _ _ => True) o p := by
  cases o with
  | error e => cases p with
    | error f => exact .failed e f
    | ok b => cases h
  | ok a => cases p with
    | error f => cases h
    | ok b => exact .done trivial

/-- An outcome goes together with itself if its result is related to itself. -/
theorem refl {r : α → α → Prop} (o : Except ε α) (h : ∀ a, r a a) : Together r o o := by
  cases o with
  | error e => exact .failed e e
  | ok a => exact .done (h a)

end Together

/-- Whether an outcome is a success or fails in a way of some kind. -/
def FailsOnly {ε α : Type} (p : ε → Prop) (o : Except ε α) : Prop :=
  ∀ e, o = .error e → p e

namespace FailsOnly

variable {ε α β : Type} {p : ε → Prop} {o : Except ε α} {f : α → Except ε β}

/-- A success does not fail. -/
theorem ok (a : α) : FailsOnly p (.ok a) :=
  fun _ h => nomatch h

/-- A failure is of its own kind. -/
theorem error {e : ε} (h : p e) : FailsOnly p (.error e : Except ε α) :=
  fun _ he => Except.error.inj he ▸ h

/-- A step and what goes on from it fail as one of them does. -/
theorem bind (ho : FailsOnly p o) (hf : ∀ a, o = .ok a → FailsOnly p (f a)) :
    FailsOnly p (o >>= f) := by
  cases o with
  | error e => exact error (ho e rfl)
  | ok a => exact hf a rfl

/-- Where only the errors are changed, a failure is of a kind if the errors are changed to it. -/
theorem mapError {ε' : Type} {o : Except ε' α} {f : ε' → ε}
    (h : ∀ e, o = .error e → p (f e)) : FailsOnly p (o.mapError f) := by
  cases o with
  | error e => exact error (h e rfl)
  | ok a => exact ok a

/-- What is made of an outcome fails as the outcome does. -/
theorem map (ho : FailsOnly p o) (f : α → β) : FailsOnly p (o.map f) := fun e he =>
  ho e (map_eq_error_iff.1 he)

end FailsOnly

end Searchable
