import Searchable.Proofs.Registry.Stored
import Searchable.Proofs.Session.Run

/-!
# The history of a registry

What a registry holds after a run is read off the run: `Session.accepted` lists the registrations of
a record type that succeeded. By `Session.step_cases` one operation leaves the schema of each record
type as it is, or stores one where there was none and is accepted in doing so. By induction on the
run, a schema stays (`Session.schemaOf?_run_of_some`), and a type without one gets that of the first
accepted registration (`Session.schemaOf?_run_of_none`).

`KeepsFirst` puts together what follows for a registry that was empty at the start.
-/

namespace Searchable

/-- A registration that succeeded. -/
structure Registration where
  /-- The record type as it was written. -/
  recordType : Value
  /-- The declaration. -/
  declaration : Declaration
  /-- The schema that was the answer. -/
  schema : Schema

namespace Session

variable {s : Session} {op : Operation} {recordType : Value}

/-- Whether an operation is a registration of a record type that succeeds, and with what. -/
def accepted? (s : Session) (recordType : Value) (op : Operation) : Option Registration :=
  match op, (s.step op).answer with
  | .register other d, .ok (.schema x) =>
    if Value.isSameKey other recordType then some ⟨other, d, x⟩ else none
  | _, _ => none

/-- The registrations of a record type that succeed in a run, in order. -/
def accepted (s : Session) (recordType : Value) : List Operation → List Registration
  | [] => []
  | op :: ops => (s.accepted? recordType op).toList ++ (s.step op).state.accepted recordType ops

/-- What holds after a run of a registry that was empty at the start. -/
structure KeepsFirst (start : Session) (ops : List Operation) : Prop where
  /-- A record type has a schema exactly when a registration of it succeeded. -/
  registered_iff : ∀ recordType,
    (∃ x, (start.run ops).registry.get recordType = .ok x) ↔ start.accepted recordType ops ≠ []
  /-- It is contained just then. -/
  contains_iff : ∀ recordType,
    (start.run ops).registry.contains recordType = .ok true ↔ start.accepted recordType ops ≠ []
  /-- The schema is what the first of these registrations built, and the answer to each later one.
  It is sound for the record type as it was written then. -/
  first : ∀ recordType a later, start.accepted recordType ops = a :: later →
    start.registry.build a.recordType a.declaration = .ok a.schema ∧
      (start.run ops).registry.get recordType = .ok a.schema ∧
      (∀ b ∈ later, b.schema = a.schema) ∧
      a.schema.IsSoundFor start.registry.inspector a.recordType
  /-- No further operations change the schema. -/
  kept : ∀ recordType x more, (start.run ops).registry.get recordType = .ok x →
    ((start.run ops).run more).registry.get recordType = .ok x
  /-- It is sound for the record type in any form, if what the inspector knows does not depend on
  the form. -/
  sound : start.registry.inspector.RespectsKeys →
    ∀ recordType x, (start.run ops).registry.get recordType = .ok x →
      x.IsSoundFor start.registry.inspector recordType
  /-- An operation that fails leaves the registry as it is. -/
  failed : ∀ op e, ((start.run ops).step op).answer = .error e →
    ((start.run ops).step op).state.registry = (start.run ops).registry
  /-- A record type of which no registration succeeded is registered by the next one whose
  declaration is acceptable. -/
  open_to_new : ∀ recordType d x, start.accepted recordType ops = [] →
    recordType.unhashable? = none → start.registry.build recordType d = .ok x →
    ((start.run ops).step (.register recordType d)).answer = .ok (.schema x)

/-- What an operation comes to for a record type: it is no registration of the type that succeeds
and leaves its schema, or it is answered with the schema that the type has, or the type has none and
is given the schema that is built. -/
theorem step_cases (s : Session) (op : Operation) (recordType : Value) :
    (s.accepted? recordType op = none ∧
      (s.step op).state.registry.schemaOf? recordType = s.registry.schemaOf? recordType) ∨
    ∃ a, s.accepted? recordType op = some a ∧
      (s.step op).state.registry.schemaOf? recordType = some a.schema ∧
      (s.registry.schemaOf? recordType = some a.schema ∨
        s.registry.schemaOf? recordType = none ∧
          s.registry.build a.recordType a.declaration = .ok a.schema) := by
  rw [step_registry]
  cases op with
  | register other d =>
    simp only [accepted?, step]
    rcases s.registry.register_cases other d with
      ⟨e, h⟩ | ⟨x, events, hx, h⟩ | ⟨x, hkey, hnew, hb, h⟩
    · rw [h]
      exact .inl ⟨rfl, rfl⟩
    · -- The answer is the schema that the type, in whatever form, has already.
      rw [h]
      simp only [Outcome.map, Except.map]
      by_cases hsame : Value.isSameKey other recordType = true
      · rw [if_pos hsame, ← Registry.schemaOf?_congr hsame, hx]
        exact .inr ⟨_, rfl, rfl, .inl rfl⟩
      · rw [if_neg hsame]
        exact .inl ⟨rfl, trivial⟩
    · -- What is stored is found for the forms of this type and hides nothing of other types.
      rw [h]
      simp only [Outcome.map, Except.map]
      rw [Registry.schemaOf?_store hkey]
      by_cases hsame : Value.isSameKey other recordType = true
      · have hnone : s.registry.schemaOf? recordType = none := by
          rw [← Registry.schemaOf?_congr hsame, Registry.schemaOf?, hkey, hnew]
          rfl
        rw [if_pos hsame, if_pos hsame, hnone]
        exact .inr ⟨_, rfl, rfl, .inr ⟨rfl, hb⟩⟩
      · rw [if_neg hsame, if_neg hsame, Option.or_none]
        exact .inl ⟨rfl, rfl⟩
  | _ => exact .inl ⟨rfl, rfl⟩

/-- An operation keeps the inspector and the settings. -/
theorem step_inspector (s : Session) (op : Operation) :
    (s.step op).state.registry.inspector = s.registry.inspector ∧
      (s.step op).state.registry.settings = s.registry.settings := by
  rw [step_registry]
  cases op with
  | register recordType d => exact s.registry.register_inspector recordType d
  | _ => exact ⟨rfl, rfl⟩

/-- What is built after an operation is what was built before. -/
theorem build_step (s : Session) (op : Operation) (recordType : Value) (d : Declaration) :
    (s.step op).state.registry.build recordType d = s.registry.build recordType d := by
  rw [← Registry.build_of_empty, ← s.registry.build_of_empty, (s.step_inspector op).1,
    (s.step_inspector op).2]

/-- Operations keep what is stored sound. -/
theorem isSound_step (h : s.registry.IsSound) (op : Operation) :
    (s.step op).state.registry.IsSound := by
  rw [step_registry]
  cases op with
  | register recordType d => exact h.register recordType d
  | _ => exact h

/-- An operation that fails leaves the registry as it is. -/
theorem registry_of_failed {e : Failure} (h : (s.step op).answer = .error e) :
    (s.step op).state.registry = s.registry := by
  rw [step_registry]
  cases op with
  | register recordType d =>
    simp only [step] at h
    rcases s.registry.register_cases recordType d with ⟨f, hr⟩ | ⟨x, _, -, hr⟩ | ⟨x, -, -, -, hr⟩
    · simp only [hr, Outcome.look]
    · rw [hr] at h
      cases h
    · rw [hr] at h
      cases h
  | _ => rfl

/-- What is built after a run is what was built before. -/
theorem build_run (s : Session) (ops : List Operation) (recordType : Value) (d : Declaration) :
    (s.run ops).registry.build recordType d = s.registry.build recordType d :=
  run_of_step (P := fun after => after.registry.build recordType d = s.registry.build recordType d)
    (fun after op h => (build_step after op recordType d).trans h) rfl ops

/-- A run keeps the inspector. -/
theorem run_inspector (s : Session) (ops : List Operation) :
    (s.run ops).registry.inspector = s.registry.inspector :=
  run_of_step (P := fun after => after.registry.inspector = s.registry.inspector)
    (fun after op h => (after.step_inspector op).1.trans h) rfl ops

/-- A run keeps what is stored sound. -/
theorem isSound_run (h : s.registry.IsSound) (ops : List Operation) :
    (s.run ops).registry.IsSound :=
  run_of_step (P := fun after => after.registry.IsSound) (fun _ op h => isSound_step h op) h ops

/-- A schema that a record type has is kept in a run and is the answer to each registration that
succeeds. -/
theorem schemaOf?_run_of_some {x : Schema} (h : s.registry.schemaOf? recordType = some x)
    (ops : List Operation) :
    (s.run ops).registry.schemaOf? recordType = some x ∧
      ∀ a ∈ s.accepted recordType ops, a.schema = x := by
  induction ops generalizing s with
  | nil => exact ⟨h, fun a ha => by cases ha⟩
  | cons op ops ih =>
    rw [run_cons, accepted]
    rcases s.step_cases op recordType with ⟨hnone, hstep⟩ | ⟨a, hsome, hstep, hold⟩
    · rw [hnone]
      exact ih (hstep.trans h)
    · -- A schema that is there cannot have been built just now.
      have hax : a.schema = x := by
        rcases hold with hold | ⟨hold, -⟩
        · exact Option.some.inj (hold.symm.trans h)
        · rw [h] at hold
          cases hold
      obtain ⟨hrun, hlater⟩ := ih (hstep.trans (congrArg some hax))
      refine ⟨hrun, fun b hb => ?_⟩
      rw [hsome] at hb
      rcases List.mem_cons.1 hb with rfl | hb
      · exact hax
      · exact hlater b hb

/-- A record type without a schema is given one in a run exactly by the first registration that
succeeds, if any does. -/
theorem schemaOf?_run_of_none (h : s.registry.schemaOf? recordType = none)
    (ops : List Operation) :
    match s.accepted recordType ops with
    | [] => (s.run ops).registry.schemaOf? recordType = none
    | a :: later => s.registry.build a.recordType a.declaration = .ok a.schema ∧
      (s.run ops).registry.schemaOf? recordType = some a.schema ∧
        ∀ b ∈ later, b.schema = a.schema := by
  induction ops generalizing s with
  | nil => exact h
  | cons op ops ih =>
    rw [run_cons, accepted]
    rcases s.step_cases op recordType with ⟨hnone, hstep⟩ | ⟨a, hsome, hstep, hold⟩
    · rw [hnone, Option.toList_none, List.nil_append]
      simpa only [build_step] using ih (hstep.trans h)
    · -- The first registration that is accepted; the rest of the run keeps what it stored.
      rw [hsome]
      have hb : s.registry.build a.recordType a.declaration = .ok a.schema := by
        rcases hold with hold | ⟨-, hb⟩
        · rw [h] at hold
          cases hold
        · exact hb
      exact ⟨hb, schemaOf?_run_of_some hstep ops⟩

/-- A registry that is empty at the start keeps the first schema of each record type. -/
theorem registry_keepsFirst (i : Inspector) (settings : SearchSettings) (store : Store)
    (ops : List Operation) : KeepsFirst ⟨.empty i settings, store⟩ ops := by
  generalize hstart : (⟨.empty i settings, store⟩ : Session) = start
  have hempty (recordType : Value) : start.registry.schemaOf? recordType = none := by
    rw [← hstart, Registry.schemaOf?]
    exact ite_self none
  have hsound : start.registry.IsSound := by
    rw [← hstart]
    intro e he
    cases he
  -- A record type has a schema by its first accepted registration, and without one it has none.
  have hiff (recordType : Value) :
      ((start.run ops).registry.schemaOf? recordType).isSome = true ↔
        start.accepted recordType ops ≠ [] := by
    have hrun := schemaOf?_run_of_none (hempty recordType) ops
    cases hacc : start.accepted recordType ops with
    | nil =>
      rw [hacc] at hrun
      simp [show (start.run ops).registry.schemaOf? recordType = none from hrun]
    | cons a later =>
      rw [hacc] at hrun
      simp [hrun.2.1]
  constructor
  case registered_iff =>
    intro recordType
    rw [← hiff, Option.isSome_iff_exists]
    simp only [Registry.get_eq_ok_iff]
  case contains_iff =>
    intro recordType
    rw [Registry.contains_eq_ok_true_iff, hiff]
  case first =>
    intro recordType a later hacc
    have hrun := schemaOf?_run_of_none (hempty recordType) ops
    rw [hacc] at hrun
    obtain ⟨hb, hx, hlater⟩ := hrun
    exact ⟨hb, Registry.get_eq_ok_iff.2 hx, hlater, Registry.isSoundFor_of_build hb⟩
  case kept =>
    intro recordType x more hx
    rw [Registry.get_eq_ok_iff] at hx ⊢
    exact (schemaOf?_run_of_some hx more).1
  case sound =>
    intro hrespects recordType x hx
    rw [Registry.get_eq_ok_iff] at hx
    rw [← run_inspector start ops] at hrespects ⊢
    exact (isSound_run hsound ops).of_schemaOf? hrespects hx
  case failed =>
    intro op e h
    exact registry_of_failed h
  case open_to_new =>
    intro recordType d x hacc hkey hb
    -- The run has left the record type open, and what is built does not depend on the run.
    have hnew : (start.run ops).registry.find? recordType = none := by
      have hrun := schemaOf?_run_of_none (hempty recordType) ops
      rw [hacc] at hrun
      simpa only [Registry.schemaOf?, hkey, Option.isNone_none, if_true] using hrun
    have hanswer := Registry.answer_register_of_new (d := d) hkey hnew
    rw [build_run, hb] at hanswer
    simp only [step, Outcome.map, hanswer]
    rfl

end Session

end Searchable
