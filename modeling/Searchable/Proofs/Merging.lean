import Mathlib.Data.List.Nodup
import Searchable.Proofs.Lookup

/-!
# Maps that are merged from entries

`Entries.ofList` puts entries into a map one after the other. The names of the map are those of the
entries (`mem_names_ofList`), each of them once (`nodup_names_ofList`), and the last entry of a name
has its say: what is merged later hides what was merged before (`get?_ofList_append`). Entries of
distinct names are a map as they are (`ofList_of_nodup`), in which the order is of no account for a
look-up (`get?_perm`).
-/

namespace Searchable.Entries

variable {α : Type} {es fs : Entries α}

/-- Setting the value under a known name leaves the names as they are. -/
theorem names_put_of_mem {name : String} (h : name ∈ es.names) (value : α) :
    (es.put name value).names = es.names := by
  rw [names_put, if_pos h]

/-- Names are known after they were put, and before if they were known. -/
theorem mem_names_put {name other : String} {value : α} {es : Entries α} :
    name ∈ (es.put other value).names ↔ name ∈ es.names ∨ name = other := by
  rw [names_put]
  split
  · rename_i hother
    refine ⟨Or.inl, fun h => h.elim id ?_⟩
    rintro rfl
    exact hother
  · simp

/-- Putting entries makes their names known. -/
theorem mem_names_foldl_put {name : String} {pairs : List (String × α)} {es : Entries α} :
    name ∈ (pairs.foldl (fun es p => es.put p.1 p.2) es).names ↔
      name ∈ es.names ∨ name ∈ pairs.map Prod.fst := by
  induction pairs generalizing es with
  | nil => simp
  | cons p pairs ih =>
    rw [List.foldl_cons, ih, mem_names_put, List.map_cons, List.mem_cons, or_assoc]

/-- The names of merged entries are the names of the entries. -/
theorem mem_names_ofList {name : String} {pairs : List (String × α)} :
    name ∈ (ofList pairs).names ↔ name ∈ pairs.map Prod.fst := by
  unfold ofList
  rw [mem_names_foldl_put]
  simp [names]

/-- Distinct names stay distinct after one is put. -/
theorem nodup_names_put {name : String} (h : es.names.Nodup) (value : α) :
    (es.put name value).names.Nodup := by
  rw [names_put]
  split
  · exact h
  · rename_i hnew
    exact List.Nodup.append h (List.nodup_singleton name) (by simpa using hnew)

/-- Distinct names stay distinct after some are put. -/
theorem nodup_names_foldl_put (h : es.names.Nodup) (pairs : List (String × α)) :
    (pairs.foldl (fun es p => es.put p.1 p.2) es).names.Nodup := by
  induction pairs generalizing es with
  | nil => exact h
  | cons p pairs ih => exact ih (nodup_names_put h p.2)

/-- Merged entries have distinct names. -/
theorem nodup_names_ofList (pairs : List (String × α)) : (ofList pairs).names.Nodup := by
  have hempty : names ([] : Entries α) = [] := rfl
  exact nodup_names_foldl_put (hempty ▸ List.nodup_nil) pairs

/-- A new name is put at the end. -/
theorem put_of_not_mem {name : String} (h : name ∉ es.names) (value : α) :
    es.put name value = es ++ [(name, value)] := by
  induction es with
  | nil => rfl
  | cons e es ih =>
    obtain ⟨n, v⟩ := e
    have hne : ¬n = name := fun heq => h (heq ▸ List.mem_cons_self)
    have hlater : name ∉ names es := fun hmem => h (List.mem_cons_of_mem n hmem)
    rw [put, if_neg hne, ih hlater]
    rfl

/-- Entries with distinct names are a map as they are. -/
theorem ofList_of_nodup (h : es.names.Nodup) : ofList es = es := by
  -- The induction is on what is still to be put; what has been put has none of its names.
  have hfold : ∀ done : Entries α, (names (done ++ es)).Nodup →
      es.foldl (fun es p => es.put p.1 p.2) done = done ++ es := by
    clear h
    induction es with
    | nil => exact fun done _ => (List.append_nil done).symm
    | cons e es ih =>
      intro done hd
      have hnew : e.1 ∉ done.names := by
        rw [names, List.map_append, List.map_cons] at hd
        exact fun hmem => (List.nodup_append.1 hd).2.2 _ hmem _ List.mem_cons_self rfl
      have hsplit : done ++ e :: es = (done ++ [e]) ++ es := by
        rw [List.append_assoc, List.singleton_append]
      rw [List.foldl_cons, put_of_not_mem hnew, hsplit]
      exact ih (done ++ [e]) (hsplit ▸ hd)
  exact hfold [] h

/-- What is put into a map hides what was there. -/
theorem get?_foldl_put (name : String) (pairs : List (String × α)) (es : Entries α) :
    Entries.get? name (pairs.foldl (fun es p => es.put p.1 p.2) es) =
      ((ofList pairs).get? name).or (es.get? name) := by
  induction pairs using List.reverseRecOn with
  | nil => rfl
  | append_singleton pairs p ih =>
    unfold ofList at ih ⊢
    rw [List.foldl_append, List.foldl_append]
    simp only [List.foldl_cons, List.foldl_nil]
    rw [get?_put, get?_put, ih]
    by_cases h : name = p.1
    · rw [if_pos h, if_pos h]
      rfl
    · rw [if_neg h, if_neg h]

/-- What is merged later hides what was merged before. -/
theorem get?_ofList_append (name : String) (es fs : Entries α) :
    (ofList (es ++ fs)).get? name = ((ofList fs).get? name).or ((ofList es).get? name) := by
  have hfold : ofList (es ++ fs) = fs.foldl (fun es p => es.put p.1 p.2) (ofList es) :=
    List.foldl_append
  rw [hfold, get?_foldl_put]

/-- Where names are distinct, the order of the entries is of no account. -/
theorem get?_perm (h : es.Perm fs) (hd : es.names.Nodup) (name : String) :
    es.get? name = fs.get? name := by
  have hnames : es.names.Perm fs.names := h.map Prod.fst
  cases hv : es.get? name with
  | some v => exact (get?_of_mem (hnames.nodup hd) (h.mem_iff.1 (mem_of_get? hv))).symm
  | none =>
    rw [get?_eq_none_iff, hnames.mem_iff] at hv
    exact (get?_eq_none_iff.2 hv).symm

end Searchable.Entries
