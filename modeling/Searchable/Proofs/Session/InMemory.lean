import Searchable.Proofs.Request.Arguments
import Searchable.Proofs.Session.Run

/-!
# Sessions with a store in memory

A store in memory stays one whatever a session does (`Session.isInMemory_run`). It finds its finders
under their names (`Store.finder_of_name`), and one that is called with the arguments of a request
keeps them as they are and answers (`Store.call_find`). Under any other name that is none of its
operations it finds none (`Store.finder_of_missing`).
-/

namespace Searchable

namespace Store

variable {s : Store}

/-- Whether a store is one in memory. -/
structure IsInMemory (s : Store) : Prop where
  /-- Its kind. -/
  kind : s.kind = .memory
  /-- It holds no other value than its records and its calls. -/
  standIn : s.standIn = none

/-- Setting up a store keeps it in memory. -/
theorem IsInMemory.setUp (h : s.IsInMemory) {v : Value} {next : Store}
    (hnext : s.setUp v = .ok next) : next.IsInMemory := by
  unfold Store.setUp at hnext
  rw [h.kind] at hnext
  simp only at hnext
  split at hnext
  · split at hnext
    · obtain rfl := Except.ok.inj hnext
      exact ⟨rfl, rfl⟩
    · cases hnext
  · obtain rfl := Except.ok.inj hnext
    exact ⟨rfl, rfl⟩

/-- Keeping a call keeps a store in memory. -/
theorem IsInMemory.keep (h : s.IsInMemory) {finder : Value} {named : Entries Value} {next : Store}
    (hnext : s.keep finder named = .ok next) : next.IsInMemory := by
  obtain ⟨options, -, hnext⟩ := bind_eq_ok_iff.1 hnext
  obtain rfl := Except.ok.inj hnext
  exact ⟨h.kind, h.standIn⟩

/-- Whatever a store is asked to do keeps it in memory. -/
theorem IsInMemory.perform (h : s.IsInMemory) {c : Chore} {recordType : Value}
    {named : Entries Value} {p : Product} {next : Store}
    (hnext : s.perform c recordType named = .ok (p, next)) : next.IsInMemory := by
  unfold Store.perform at hnext
  cases c with
  | keep =>
    obtain ⟨_, hk, he⟩ := map_eq_ok_iff.1 hnext
    obtain ⟨-, rfl⟩ := Prod.mk.inj he
    exact h.keep hk
  | setUp =>
    obtain ⟨_, hk, he⟩ := map_eq_ok_iff.1 hnext
    obtain ⟨-, rfl⟩ := Prod.mk.inj he
    exact h.setUp hk
  | refuse m => cases hnext
  | _ =>
    obtain ⟨_, -, he⟩ := map_eq_ok_iff.1 hnext
    obtain ⟨-, rfl⟩ := Prod.mk.inj he
    exact h

/-- A call keeps a store in memory. -/
theorem IsInMemory.call (h : s.IsInMemory) (refusal : Product → Misuse) (service : Service)
    (recordType : Value) (named : Entries Value) :
    (s.call refusal service recordType named).state.IsInMemory := by
  unfold Store.call
  split
  · exact h
  · cases service with
    | find f =>
      simp only [find]
      split
      · exact h
      · exact ⟨h.kind, h.standIn⟩
    | chore c =>
      simp only
      split
      · exact h
      · rename_i hp
        exact h.perform hp

/-- A call by name keeps a store in memory. -/
theorem IsInMemory.callNamed (h : s.IsInMemory) (name : String) (recordType : Value)
    (named : Entries Value) : (s.callNamed name recordType named).state.IsInMemory := by
  unfold Store.callNamed
  split
  · exact h
  · exact h.call _ _ recordType named
  · split <;> exact h

/-- A finder of a store in memory that is given the arguments of a request keeps them and gives its
answer. -/
theorem call_find (h : s.IsInMemory) (refusal : Product → Misuse) (f : Finder) (recordType : Value)
    {r : Request} (hplaced : ∀ name ∈ r.options.names, name ∉ [receiver, "record_type"])
    (hcommon : ∀ name ∈ r.options.names, name ∉ Arguments.commonNames) :
    s.call refusal (.find f) recordType r.named =
      ⟨{ s with calls := s.calls ++ [.plain (.text f.name) recordType r.arguments] },
        .ok (f.select s.records), []⟩ := by
  have hfit : (s.kind.signature (.find f)).check 2 r.named.names = .ok () := by
    have hfree : r.named.names.find? [receiver, "record_type"].contains = none := by
      rw [List.find?_eq_none]
      intro name hname
      rw [Request.named, Entries.names, List.map_append, List.mem_append] at hname
      have hown : ∀ name ∈ Arguments.commonNames, name ∉ [receiver, "record_type"] := by decide
      rcases hname with hname | hname
      · simpa using hown name hname
      · simpa using hplaced name hname
    have hcheck := (StoreKind.memory.finderSignature f).check_of_takesMore rfl
      (Nat.le_refl 2) (Nat.le_refl 2) r.named.names
    have htwo : (StoreKind.memory.finderSignature f).placed.take 2 = [receiver, "record_type"] :=
      rfl
    rw [htwo, hfree] at hcheck
    rw [h.kind]
    exact hcheck
  have hkept : s.callOf f recordType r.named =
      .ok (.plain (.text f.name) recordType r.arguments) := by
    unfold callOf
    rw [h.kind, ← Arguments.ofNamed_named hcommon]
  unfold call
  simp only [Service.filled, hfit, find, hkept]

/-- A store has its finders under their names. -/
theorem finder_of_name {v : Value} {f : Finder} (hv : v.text? = some f.name) :
    s.finder v = .ok (.find f) := by
  have hservice : s.service? f.name = .ok (some (.find f)) := by
    have hlast : f.name ≠ lastCallName := by cases f <;> decide
    have htables : f.name ≠ StoreKind.tablesName := by cases f <;> decide
    unfold service? StoreKind.service?
    rw [if_neg (fun h => hlast h.2), if_neg htables, Finder.ofName?_name]
  unfold finder
  rw [hv]
  simp only [hservice]
  rfl

/-- A finder that is the name of nothing that can be called is not found. -/
theorem finder_of_service? {v : Value} {name : String} (hv : v.text? = some name)
    (h : s.service? name = .ok none) :
    s.finder v = .error (.fault (.ofCause (.finderNotFound v (.text s.kind.name)))) := by
  -- The message shows the name, which has a text.
  have hshown : Failure.ofCause (.finderNotFound v (.text s.kind.name)) =
      .fault (.ofCause (.finderNotFound v (.text s.kind.name))) := by
    cases v with
    | text | strategy => rfl
    | _ => cases hv
  rw [finder, hv, ← hshown]
  simp only [h]
  rfl

/-- A store in memory has no finder under a name that is that of no operation. Its last call may be
asked for only after the first. -/
theorem finder_of_missing (h : s.IsInMemory) {v : Value} {name : String} (hv : v.text? = some name)
    (hmissing : StoreKind.memory.service? name = none)
    (hlast : name = lastCallName → s.calls ≠ []) :
    s.finder v = .error (.fault (.ofCause (.finderNotFound v (.text StoreKind.memory.name)))) := by
  have hservice : s.service? name = .ok none := by
    unfold service?
    split
    · rename_i hname
      unfold lastCall
      cases hc : s.calls.getLast? with
      | some c => rfl
      | none => exact absurd (List.getLast?_eq_none_iff.1 hc) (hlast hname.2)
    · split
      · rw [h.standIn]
        rfl
      · rw [h.kind, hmissing]
  rw [finder_of_service? hv hservice, h.kind]

end Store

namespace Session

variable {s : Session}

/-- An operation keeps the store in memory. -/
theorem isInMemory_step (h : s.store.IsInMemory) (op : Operation) :
    (s.step op).state.store.IsInMemory := by
  cases op with
  | register recordType d => exact h
  | contains recordType | get recordType | requestNames recordType => exact h
  | compile i =>
    simp only [step]
    split <;> exact h
  | search i =>
    simp only [step]
    split
    · exact h
    · rename_i q _
      cases hc : (s.registry.compile q).answer with
      | error e => simpa only [Outcome.map, search, hc, id] using h
      | ok r =>
        simp only [Outcome.map, search, hc, dispatch]
        split
        · exact h
        · exact h.call _ _ _ _
  | call name recordType named => exact h.callNamed name recordType named

/-- A run keeps the store in memory. -/
theorem isInMemory_run (h : s.store.IsInMemory) (ops : List Operation) :
    (s.run ops).store.IsInMemory :=
  run_of_step (P := fun after => after.store.IsInMemory) (fun _ op h => isInMemory_step h op) h ops

end Session

end Searchable
