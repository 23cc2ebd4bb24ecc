import Mathlib.Data.List.Induction
import Searchable.Entries

/-!
# Look-ups in maps

What a look-up finds in a map that is put together from others, and `eq_of_get?`: two maps with the
same distinct names and the same look-ups are the same. `tabulate` is the map of a function on a
list of names, the form in which a reading of a request is compared with what was gathered of it.
Entries that are related one by one have related look-ups (`rel_get?_of_forall₂`), and where names
are distinct it is enough that each entry has a related one anywhere (`forall_rel_get?_iff`).
The last part is about the first occurrences in a list.
-/

namespace Searchable.Entries

variable {α : Type}

/-- What is under a name in the first of two maps hides what is under it in the second. -/
theorem get?_append (name : String) (es fs : Entries α) :
    Entries.get? name (es ++ fs) = (es.get? name).or (fs.get? name) := by
  induction es with
  | nil => simp [get?]
  | cons e es ih =>
    obtain ⟨n, v⟩ := e
    by_cases h : n = name
    · simp [get?, h]
    · simp [get?, h, ih]

/-- A look-up in a map of one entry. -/
theorem get?_singleton (name other : String) (value : α) :
    Entries.get? name [(other, value)] = if other = name then some value else none := rfl

/-- A look-up after a value is set. -/
theorem get?_put (name : String) (value : α) (es : Entries α) (other : String) :
    (es.put name value).get? other = if other = name then some value else es.get? other := by
  by_cases h : other = name
  · rw [if_pos h, h, get?_put_self]
  · rw [if_neg h, get?_put_of_ne value es h]

/-- Nothing is found under a name exactly when it is not among the names. -/
theorem get?_eq_none_iff {name : String} {es : Entries α} :
    es.get? name = none ↔ name ∉ es.names := by
  rw [← get?_isSome_iff, Option.not_isSome_iff_eq_none]

/-- A name has a value exactly when it is among the names. -/
theorem contains_iff {name : String} {es : Entries α} :
    es.contains name = true ↔ name ∈ es.names := get?_isSome_iff

/-- A name under which a value is found has one. -/
theorem contains_of_get? {name : String} {value : α} {es : Entries α}
    (h : es.get? name = some value) : es.contains name = true := by
  rw [contains, h]
  rfl

/-- Where names are distinct, what was entered under a name is found. -/
theorem get?_of_mem {name : String} {value : α} {es : Entries α} (hd : es.names.Nodup)
    (h : (name, value) ∈ es) : es.get? name = some value := by
  induction es with
  | nil => cases h
  | cons e es ih =>
    obtain ⟨n, v⟩ := e
    have hd' : n ∉ names es ∧ (names es).Nodup := by simpa [names] using hd
    rcases List.mem_cons.1 h with he | h
    · obtain ⟨rfl, rfl⟩ := Prod.mk.inj he
      exact if_pos rfl
    · have hne : n ≠ name := by
        rintro rfl
        exact hd'.1 (List.mem_map_of_mem h)
      rw [get?, if_neg hne]
      exact ih hd'.2 h

/-- The names of two maps, one after the other. -/
theorem names_append (es fs : Entries α) : names (es ++ fs) = es.names ++ fs.names :=
  List.map_append

/-- Two maps with the same distinct names and the same look-ups are the same. -/
theorem eq_of_get? {es fs : Entries α} (hn : es.names = fs.names) (hd : es.names.Nodup)
    (h : ∀ name ∈ es.names, es.get? name = fs.get? name) : es = fs := by
  induction es generalizing fs with
  | nil => cases fs with
    | nil => rfl
    | cons f fs => simp [names] at hn
  | cons e es ih => cases fs with
    | nil => simp [names] at hn
    | cons f fs =>
      obtain ⟨n, v⟩ := e
      obtain ⟨m, w⟩ := f
      have hn' : n = m ∧ names es = names fs := by simpa [names] using hn
      have hd' : n ∉ names es ∧ (names es).Nodup := by simpa [names] using hd
      obtain ⟨rfl, hn'⟩ := hn'
      have hv : v = w := by simpa [get?] using h n (by simp [names])
      -- The first name does not come again, so look-ups of later names pass over its entry.
      have hrest : es = fs := by
        refine ih hn' hd'.2 fun name hm => ?_
        have hne : n ≠ name := fun e => hd'.1 (e ▸ hm)
        simpa [get?, hne] using h name (by simp [names] at hm ⊢; exact Or.inr hm)
      rw [hv, hrest]

/-- The map of a function on some names. -/
def tabulate (names : List String) (f : String → α) : Entries α :=
  names.map fun name => (name, f name)

/-- The names of a tabulated function are those it is tabulated on. -/
@[simp]
theorem names_tabulate (ns : List String) (f : String → α) : (tabulate ns f).names = ns := by
  simp [names, tabulate, Function.comp_def]

/-- A look-up in a tabulated function. -/
theorem get?_tabulate (ns : List String) (f : String → α) (name : String) :
    (tabulate ns f).get? name = if name ∈ ns then some (f name) else none := by
  induction ns with
  | nil => rfl
  | cons n ns ih =>
    have hcons : tabulate (n :: ns) f = (n, f n) :: tabulate ns f := rfl
    rw [hcons, get?]
    by_cases h : n = name
    · simp [h]
    · simp [h, Ne.symm h, ih]

section Related

variable {β : Type} {es : Entries α} {fs : Entries β} {r : α → β → Prop}

/-- Entries that are related one by one and have the same names have them in the same order. -/
theorem names_eq_of_forall₂ {r : String → α → β → Prop}
    (h : List.Forall₂ (fun e f => e.1 = f.1 ∧ r e.1 e.2 f.2) es fs) : es.names = fs.names := by
  induction h with
  | nil => rfl
  | cons hef _ ih => exact congrArg₂ List.cons hef.1 ih

/-- Look-ups are related by name where the entries are related one by one and have the same names.
-/
theorem rel_get?_of_forall₂ {r : String → α → β → Prop}
    (h : List.Forall₂ (fun e f => e.1 = f.1 ∧ r e.1 e.2 f.2) es fs) (name : String) :
    Option.Rel (r name) (es.get? name) (fs.get? name) := by
  induction h with
  | nil => exact .none
  | @cons e f es fs hef _ ih =>
    obtain ⟨n, v⟩ := e
    obtain ⟨m, w⟩ := f
    obtain ⟨rfl, hvw⟩ : n = m ∧ r n v w := hef
    rw [get?, get?]
    by_cases hn : n = name
    · rw [if_pos hn, if_pos hn, ← hn]
      exact .some hvw
    · rw [if_neg hn, if_neg hn]
      exact ih

/-- Entries stay related where related values are set under a name. -/
theorem forall₂_put {r : String → α → β → Prop} {name : String} {v : α} {w : β}
    (h : List.Forall₂ (fun e f => e.1 = f.1 ∧ r e.1 e.2 f.2) es fs) (hvw : r name v w) :
    List.Forall₂ (fun e f => e.1 = f.1 ∧ r e.1 e.2 f.2) (es.put name v) (fs.put name w) := by
  induction h with
  | nil => exact .cons ⟨rfl, hvw⟩ .nil
  | @cons e f es fs hef hrest ih =>
    obtain ⟨n, a⟩ := e
    obtain ⟨m, b⟩ := f
    obtain ⟨rfl, hab⟩ : n = m ∧ r n a b := hef
    rw [put, put]
    by_cases hn : n = name
    · rw [if_pos hn, if_pos hn]
      exact .cons ⟨rfl, hn ▸ hvw⟩ hrest
    · rw [if_neg hn, if_neg hn]
      exact .cons ⟨rfl, hab⟩ ih

/-- Look-ups are related exactly when each entry has a related one under its name in the other map.
-/
theorem forall_rel_get?_iff (hes : es.names.Nodup) (hfs : fs.names.Nodup) :
    (∀ name, Option.Rel r (es.get? name) (fs.get? name)) ↔
      (∀ e ∈ es, ∃ f ∈ fs, e.1 = f.1 ∧ r e.2 f.2) ∧ ∀ f ∈ fs, ∃ e ∈ es, e.1 = f.1 ∧ r e.2 f.2 := by
  constructor
  · intro h
    refine ⟨fun e he => ?_, fun f hf => ?_⟩
    · have hname := h e.1
      rw [get?_of_mem hes he] at hname
      cases hw : fs.get? e.1 with
      | none => rw [hw] at hname; cases hname
      | some w =>
        rw [hw] at hname
        cases hname with
        | some hr => exact ⟨(e.1, w), mem_of_get? hw, rfl, hr⟩
    · have hname := h f.1
      rw [get?_of_mem hfs hf] at hname
      cases hv : es.get? f.1 with
      | none => rw [hv] at hname; cases hname
      | some v =>
        rw [hv] at hname
        cases hname with
        | some hr => exact ⟨(f.1, v), mem_of_get? hv, rfl, hr⟩
  · rintro ⟨hleft, hright⟩ name
    cases hv : es.get? name with
    | some v =>
      obtain ⟨⟨m, w⟩, hf, hm, hr⟩ := hleft _ (mem_of_get? hv)
      obtain rfl : name = m := hm
      rw [get?_of_mem hfs hf]
      exact .some hr
    | none => cases hw : fs.get? name with
      | none => exact .none
      | some w =>
        -- An entry of the second map would have one of the first under its name.
        obtain ⟨⟨m, v⟩, he, hm, -⟩ := hright _ (mem_of_get? hw)
        obtain rfl : m = name := hm
        rw [get?_of_mem hes he] at hv
        cases hv

end Related

end Searchable.Entries

namespace Searchable

/-- A new last element is a first occurrence unless it occurs before. -/
theorem eraseDups_concat (xs : List String) (x : String) :
    (xs ++ [x]).eraseDups = if x ∈ xs then xs.eraseDups else xs.eraseDups ++ [x] := by
  rw [List.eraseDups_append]
  by_cases h : x ∈ xs
  · simp [h, List.removeAll]
  · simp [h, List.removeAll, List.eraseDups_cons]

/-- The first occurrences are distinct. -/
theorem nodup_eraseDups (xs : List String) : xs.eraseDups.Nodup := by
  induction xs using List.reverseRecOn with
  | nil => simp
  | append_singleton xs x ih =>
    rw [eraseDups_concat]
    by_cases h : x ∈ xs
    · rwa [if_pos h]
    · rw [if_neg h, List.nodup_append]
      refine ⟨ih, by simp, ?_⟩
      intro a ha b hb
      have hax : a ∈ xs := List.mem_eraseDups.1 ha
      rintro rfl
      exact h ((List.mem_singleton.1 hb) ▸ hax)

/-- The first element with a property is a first occurrence. -/
theorem find?_eraseDups (p : String → Bool) (xs : List String) :
    xs.eraseDups.find? p = xs.find? p := by
  induction xs using List.reverseRecOn with
  | nil => rfl
  | append_singleton xs x ih =>
    rw [eraseDups_concat, List.find?_append]
    by_cases h : x ∈ xs
    · rw [if_pos h, ih]
      cases hf : xs.find? p with
      | some y => simp
      | none => simp [List.find?_eq_none.1 hf x h]
    · rw [if_neg h, List.find?_append, ih]

end Searchable
