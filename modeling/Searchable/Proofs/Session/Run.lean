import Searchable.Session

/-!
# Runs of a session

What each operation keeps, a run keeps (`Session.run_of_step`). Of all operations only a
registration changes the registry (`Session.step_registry`).
-/

namespace Searchable.Session

variable {s : Session}

/-- A run begins with its first operation. -/
theorem run_cons (s : Session) (op : Operation) (ops : List Operation) :
    s.run (op :: ops) = (s.step op).state.run ops := rfl

/-- What each operation keeps, a run keeps. -/
theorem run_of_step {P : Session → Prop} (hstep : ∀ s op, P s → P (s.step op).state) (h : P s)
    (ops : List Operation) : P (s.run ops) := by
  induction ops generalizing s with
  | nil => exact h
  | cons op ops ih =>
    rw [run_cons]
    exact ih (hstep s op h)

/-- A search leaves the registry as it is. -/
theorem search_registry (s : Session) (q : Query) : (s.search q).state.registry = s.registry := by
  cases hc : (s.registry.compile q).answer with
  | error e => simp only [search, hc]
  | ok r =>
    cases hf : s.finderFor q.recordType <;> simp only [search, hc, dispatch, hf, Outcome.look]

/-- Compiling leaves the registry as it is. -/
theorem compile_registry (r : Registry) (q : Query) : (r.compile q).state = r := by
  unfold Registry.compile
  split <;> rfl

/-- Only a registration changes the registry. -/
theorem step_registry (s : Session) (op : Operation) :
    (s.step op).state.registry =
      match op with
      | .register recordType d => (s.registry.register recordType d).state
      | _ => s.registry := by
  cases op with
  | register recordType d => rfl
  | contains recordType | get recordType | requestNames recordType => rfl
  | compile i =>
    simp only [step]
    split
    · rfl
    · exact compile_registry _ _
  | search i =>
    simp only [step]
    split
    · rfl
    · exact search_registry _ _
  | call name recordType named => rfl

end Searchable.Session
