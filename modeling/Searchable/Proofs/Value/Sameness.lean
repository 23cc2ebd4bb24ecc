import Mathlib.Data.List.Forall2
import Searchable.Value.Same

/-!
# Sameness is an equivalence

`Value.same` is reflexive (`same_refl`), symmetric (`same_symm`) and transitive (`same_trans`), so
that keys which are the same find the same entry of a list (`find?_congr`), whichever form of the
key the list has.

The laws are proved by induction on the values that a value is made of (`induction_parts`), by the
cases of `Alike`: two values are the same when they are compared by one thing, or when they are two
sequences, sets or maps whose parts are the same in the way of their kind.
-/

namespace Searchable

namespace Value

/-- What a value is compared by that is not compared by its items. -/
inductive Token where
  /-- Nothing is given. -/
  | null
  /-- A byte string. -/
  | bytes (bs : List UInt8)
  /-- A record type. -/
  | recordType (label : String)
  /-- A record type that is kept in a table. -/
  | model (m : Model)
  /-- The exact value of a number. -/
  | number (k : NumberKey)
  /-- The characters of a text or of the name of a strategy. -/
  | text (s : String)
  /-- The mark of a stream. -/
  | stream (mark : Nat)
  /-- The mark of a loader. -/
  | loader (mark : Nat)
  /-- The mark of an error. -/
  | error (mark : Nat)

/-- What a value is compared by, unless that is its items. -/
def token? : Value → Option Token
  | null => some .null
  | bytes bs => some (.bytes bs)
  | recordType label => some (.recordType label)
  | model m => some (.model m)
  | text s => some (.text s)
  | strategy s => some (.text s.name)
  | stream mark _ => some (.stream mark)
  | loader mark _ => some (.loader mark)
  | error mark _ => some (.error mark)
  | v => v.number?.map .number

/-- The items of a set of either kind. -/
def members? : Value → Option (List Value)
  | set items | frozenSet items => some items
  | _ => none

/-- The values that a value is made of. -/
def parts : Value → List Value
  | list items | tuple items | set items | frozenSet items => items
  | map entries => entries.flatMap fun e => [e.1, e.2]
  | _ => []

/-- What holds of a value if it holds of all its parts holds of every value. -/
theorem induction_parts {p : Value → Prop} (h : ∀ a, (∀ b ∈ a.parts, p b) → p a) (a : Value) :
    p a := by
  induction hn : sizeOf a using Nat.strongRecOn generalizing a with
  | _ n ih =>
    subst hn
    refine h a fun b hb => ih (sizeOf b) ?_ b rfl
    cases a with
    | list items | tuple items | set items | frozenSet items =>
      have hlt := List.sizeOf_lt_of_mem (show b ∈ items from hb)
      simp only [list.sizeOf_spec, tuple.sizeOf_spec, set.sizeOf_spec, frozenSet.sizeOf_spec]
      omega
    | map entries =>
      obtain ⟨⟨k, v⟩, he, hkv⟩ := List.mem_flatMap.1 hb
      have hlt := List.sizeOf_lt_of_mem he
      simp only [Prod.mk.sizeOf_spec] at hlt
      simp only [map.sizeOf_spec]
      have hb' : b = k ∨ b = v := by simpa using hkv
      rcases hb' with rfl | rfl <;> omega
    | _ => cases hb

/-- Each element of the first list is related to one of the second, and each of the second has one
of the first that is related to it. -/
def Covers {α β : Type} (r : α → β → Prop) (xs : List α) (ys : List β) : Prop :=
  (∀ x ∈ xs, ∃ y ∈ ys, r x y) ∧ ∀ y ∈ ys, ∃ x ∈ xs, r x y

/-- Two entries of maps that are the same in key and value. -/
def SameEntry (e f : Value × Value) : Prop :=
  same e.1 f.1 = true ∧ same e.2 f.2 = true

/-- When two values are the same, with a rule for each kind of values. -/
inductive Alike : Value → Value → Prop
  /-- Both are compared by one thing. -/
  | token {a b : Value} (t : Token) (ha : a.token? = some t) (hb : b.token? = some t) : Alike a b
  /-- The items of lists are the same one by one. -/
  | list {xs ys : List Value} (h : List.Forall₂ (same · · = true) xs ys) : Alike (list xs) (list ys)
  /-- The items of tuples are the same one by one. -/
  | tuple {xs ys : List Value} (h : List.Forall₂ (same · · = true) xs ys) :
    Alike (tuple xs) (tuple ys)
  /-- Each item of one set is the same as some item of the other. -/
  | sets {a b : Value} {xs ys : List Value} (ha : a.members? = some xs) (hb : b.members? = some ys)
    (h : Covers (same · · = true) xs ys) : Alike a b
  /-- Each entry of one map is the same as some entry of the other. -/
  | map {es fs : List (Value × Value)} (h : Covers SameEntry es fs) : Alike (map es) (map fs)

/-- Two sequences are the same when their items are, one by one. -/
theorem sameItems_iff {xs ys : List Value} :
    sameItems xs ys = true ↔ List.Forall₂ (same · · = true) xs ys := by
  induction xs generalizing ys with
  | nil => cases ys <;> simp [sameItems]
  | cons x xs ih => cases ys with
    | nil => simp [sameItems]
    | cons y ys => rw [sameItems, Bool.and_eq_true, ih, List.forall₂_cons]

/-- One of some items is the same as a value. -/
theorem anySame_iff {xs : List Value} {y : Value} :
    anySame xs y = true ↔ ∃ x ∈ xs, same x y = true := by
  induction xs with
  | nil => simp [anySame]
  | cons x xs ih => simp [anySame, ih]

/-- Each of the first items is the same as one of the second. -/
theorem allFound_iff {xs ys : List Value} :
    allFound xs ys = true ↔ ∀ x ∈ xs, ∃ y ∈ ys, same x y = true := by
  induction xs with
  | nil => simp [allFound]
  | cons x xs ih => simp [allFound, ih]

/-- One of some entries is the same as an entry. -/
theorem anyEntrySame_iff {es : List (Value × Value)} {f : Value × Value} :
    anyEntrySame es f = true ↔ ∃ e ∈ es, SameEntry e f := by
  induction es with
  | nil => simp [anyEntrySame]
  | cons e es ih =>
    obtain ⟨k, v⟩ := e
    rw [anyEntrySame, Bool.or_eq_true, Bool.and_eq_true, ih, List.exists_mem_cons_iff, SameEntry]

/-- Each of the first entries is the same as one of the second. -/
theorem allEntriesFound_iff {es fs : List (Value × Value)} :
    allEntriesFound es fs = true ↔ ∀ e ∈ es, ∃ f ∈ fs, SameEntry e f := by
  induction es with
  | nil => simp [allEntriesFound]
  | cons e es ih =>
    obtain ⟨k, v⟩ := e
    rw [allEntriesFound, Bool.and_eq_true, ih, List.forall_mem_cons, List.any_eq_true]
    simp only [Bool.and_eq_true, SameEntry]

/-- Two sets have the same items. -/
theorem covers_iff {xs ys : List Value} :
    (allFound xs ys && ys.all (anySame xs)) = true ↔ Covers (same · · = true) xs ys := by
  rw [Bool.and_eq_true, allFound_iff, List.all_eq_true]
  simp only [anySame_iff, Covers]

/-- Two maps have the same entries. -/
theorem covers_entries_iff {es fs : List (Value × Value)} :
    (allEntriesFound es fs && fs.all (anyEntrySame es)) = true ↔ Covers SameEntry es fs := by
  rw [Bool.and_eq_true, allEntriesFound_iff, List.all_eq_true]
  simp only [anyEntrySame_iff, Covers]

/-- Which values are compared by a thing. -/
theorem token?_eq_some_iff {a : Value} {t : Token} :
    a.token? = some t ↔
      match t with
      | .null => a = null
      | .bytes bs => a = bytes bs
      | .recordType label => a = recordType label
      | .model m => a = model m
      | .number k => a.number? = some k
      | .text s => a.text? = some s
      | .stream mark => ∃ items, a = stream mark items
      | .loader mark => ∃ l, a = loader mark l
      | .error mark => ∃ e, a = error mark e := by
  cases t <;> cases a <;> simp [token?, number?, text?, eq_comm]

/-- A text is no number. -/
theorem number?_eq_none_of_text? {a : Value} {s : String} (h : a.text? = some s) :
    a.number? = none := by
  cases a with
  | text _ | strategy _ => rfl
  | _ => cases h

/-- Values that are not compared by items are the same when both are compared by one thing. -/
theorem sameAtom_iff {a b : Value} :
    sameAtom a b = true ↔ ∃ t, a.token? = some t ∧ b.token? = some t := by
  simp only [token?_eq_some_iff]
  constructor
  · intro h
    unfold sameAtom at h
    split at h
    · exact ⟨.null, rfl, rfl⟩
    · exact ⟨.bytes _, rfl, congrArg bytes (eq_of_beq h).symm⟩
    · exact ⟨.recordType _, rfl, congrArg recordType (eq_of_beq h).symm⟩
    · exact ⟨.model _, rfl, congrArg model (eq_of_beq h).symm⟩
    · exact ⟨.stream _, ⟨_, rfl⟩, ⟨_, congrArg (stream · _) (eq_of_beq h).symm⟩⟩
    · exact ⟨.loader _, ⟨_, rfl⟩, ⟨_, congrArg (loader · _) (eq_of_beq h).symm⟩⟩
    · exact ⟨.error _, ⟨_, rfl⟩, ⟨_, congrArg (error · _) (eq_of_beq h).symm⟩⟩
    · split at h
      · rename_i x y hx hy
        exact ⟨.number x, hx, by rw [hy, eq_of_beq h]⟩
      · split at h
        · rename_i s t hs ht
          exact ⟨.text s, hs, by rw [ht, eq_of_beq h]⟩
        · cases h
  · rintro ⟨t, ha, hb⟩
    cases t with
    | null | bytes _ | recordType _ | model _ =>
      obtain rfl := ha
      obtain rfl := hb
      simp [sameAtom]
    | stream _ | loader _ | error _ =>
      obtain ⟨_, rfl⟩ := ha
      obtain ⟨_, rfl⟩ := hb
      simp [sameAtom]
    | number k =>
      unfold sameAtom
      split
      case h_8 => simp [show a.number? = some k from ha, show b.number? = some k from hb]
      all_goals cases ha
    | text s =>
      unfold sameAtom
      split
      case h_8 =>
        have hnone : a.number? = none := number?_eq_none_of_text? ha
        simp [hnone, show a.text? = some s from ha, show b.text? = some s from hb]
      all_goals cases ha

/-- Two values are the same exactly when they are alike. -/
theorem same_iff_alike {a b : Value} : same a b = true ↔ Alike a b := by
  constructor
  · intro h
    unfold same at h
    split at h
    · exact .list (sameItems_iff.1 h)
    · exact .tuple (sameItems_iff.1 h)
    · exact .sets rfl rfl (covers_iff.1 h)
    · exact .sets rfl rfl (covers_iff.1 h)
    · exact .sets rfl rfl (covers_iff.1 h)
    · exact .sets rfl rfl (covers_iff.1 h)
    · exact .map (covers_entries_iff.1 h)
    · obtain ⟨t, ha, hb⟩ := sameAtom_iff.1 h
      exact .token t ha hb
  · intro h
    cases h with
    | token t ha hb =>
      unfold same
      split
      case h_8 => exact sameAtom_iff.2 ⟨t, ha, hb⟩
      all_goals cases ha
    | list h => rwa [same, sameItems_iff]
    | tuple h => rwa [same, sameItems_iff]
    | map h => rwa [same, covers_entries_iff]
    | sets ha hb h =>
      cases a with
      | set items | frozenSet items =>
        obtain rfl := Option.some.inj ha
        cases b with
        | set items | frozenSet items =>
          obtain rfl := Option.some.inj hb
          rwa [same, covers_iff]
        | _ => cases hb
      | _ => cases ha

/-- A relation that can be turned round on the elements of a list can be on lists. -/
theorem forall₂_symm {α : Type} {r : α → α → Prop} {xs ys : List α}
    (hr : ∀ x ∈ xs, ∀ y, r x y → r y x) (h : List.Forall₂ r xs ys) : List.Forall₂ r ys xs := by
  have hboth := (List.forall₂_and_left ..).2 ⟨hr, h⟩
  exact (hboth.imp fun x y hxy => hxy.1 y hxy.2).flip

/-- A relation that can be put together on the elements of a list can be on lists. -/
theorem forall₂_trans {α : Type} {r : α → α → Prop} {xs ys zs : List α}
    (hr : ∀ x ∈ xs, ∀ y z, r x y → r y z → r x z) (hxy : List.Forall₂ r xs ys)
    (hyz : List.Forall₂ r ys zs) : List.Forall₂ r xs zs := by
  induction hxy generalizing zs with
  | nil => exact hyz
  | @cons x y xs ys h _ ih => cases hyz with
    | cons h' hyz =>
      refine .cons (hr x (List.mem_cons_self ..) _ _ h h') (ih (fun x hx => ?_) hyz)
      exact hr x (List.mem_cons_of_mem _ hx)

namespace Covers

variable {α : Type} {r : α → α → Prop} {xs ys zs : List α}

/-- A relation that can be turned round on the elements of a list can be where lists cover each
other. -/
theorem symm (hr : ∀ x ∈ xs, ∀ y, r x y → r y x) (h : Covers r xs ys) : Covers r ys xs := by
  refine ⟨fun y hy => ?_, fun x hx => ?_⟩
  · obtain ⟨x, hx, hxy⟩ := h.2 y hy
    exact ⟨x, hx, hr x hx y hxy⟩
  · obtain ⟨y, hy, hxy⟩ := h.1 x hx
    exact ⟨y, hy, hr x hx y hxy⟩

/-- A relation that can be put together on the elements of a list can be where lists cover each
other. -/
theorem trans (hr : ∀ x ∈ xs, ∀ y z, r x y → r y z → r x z) (hxy : Covers r xs ys)
    (hyz : Covers r ys zs) : Covers r xs zs := by
  refine ⟨fun x hx => ?_, fun z hz => ?_⟩
  · obtain ⟨y, hy, h⟩ := hxy.1 x hx
    obtain ⟨z, hz, h'⟩ := hyz.1 y hy
    exact ⟨z, hz, hr x hx y z h h'⟩
  · obtain ⟨y, hy, h'⟩ := hyz.2 z hz
    obtain ⟨x, hx, h⟩ := hxy.2 y hy
    exact ⟨x, hx, hr x hx y z h h'⟩

end Covers

/-- The items of a set are its parts. -/
theorem parts_of_members? {a : Value} {xs : List Value} (h : a.members? = some xs) :
    a.parts = xs := by
  cases a with
  | set items | frozenSet items => exact Option.some.inj h
  | _ => cases h

/-- A value that is not compared by its items is no set. -/
theorem members?_eq_none_of_token? {a : Value} {t : Token} (h : a.token? = some t) :
    a.members? = none := by
  cases a with
  | set items | frozenSet items => cases h
  | _ => rfl

/-- The key and the value of an entry are parts of a map. -/
theorem mem_parts_of_entry {e : Value × Value} {es : List (Value × Value)} (h : e ∈ es) :
    e.1 ∈ (map es).parts ∧ e.2 ∈ (map es).parts :=
  ⟨List.mem_flatMap.2 ⟨e, h, by simp⟩, List.mem_flatMap.2 ⟨e, h, by simp⟩⟩

/-- A value is the same as itself. -/
theorem same_refl (a : Value) : same a a = true := by
  induction a using induction_parts with
  | _ a ih =>
    rw [same_iff_alike]
    cases a with
    | list items => exact .list (List.forall₂_same.2 ih)
    | tuple items => exact .tuple (List.forall₂_same.2 ih)
    | set items | frozenSet items =>
      exact .sets rfl rfl ⟨fun x hx => ⟨x, hx, ih x hx⟩, fun x hx => ⟨x, hx, ih x hx⟩⟩
    | map entries =>
      have hself : ∀ e ∈ entries, SameEntry e e := fun e he =>
        ⟨ih e.1 (mem_parts_of_entry he).1, ih e.2 (mem_parts_of_entry he).2⟩
      exact .map ⟨fun e he => ⟨e, he, hself e he⟩, fun e he => ⟨e, he, hself e he⟩⟩
    | _ => exact .token _ rfl rfl

/-- If a value is the same as another, so is the other as the first. -/
theorem same_symm {a b : Value} (h : same a b = true) : same b a = true := by
  induction a using induction_parts generalizing b with
  | _ a ih =>
    rw [same_iff_alike] at h ⊢
    cases h with
    | token t ha hb => exact .token t hb ha
    | list h => exact .list (forall₂_symm (fun x hx y => ih x hx) h)
    | tuple h => exact .tuple (forall₂_symm (fun x hx y => ih x hx) h)
    | sets ha hb h =>
      exact .sets hb ha (h.symm fun x hx y => ih x (parts_of_members? ha ▸ hx))
    | map h =>
      refine .map (h.symm fun e he f hef => ?_)
      have hparts := mem_parts_of_entry he
      exact ⟨ih e.1 hparts.1 hef.1, ih e.2 hparts.2 hef.2⟩

/-- Whether two values are the same does not depend on which comes first. -/
theorem same_comm (a b : Value) : same a b = same b a := by
  rw [Bool.eq_iff_iff]
  exact ⟨same_symm, same_symm⟩

/-- Two values that are the same as a third are the same. -/
theorem same_trans {a b c : Value} (hab : same a b = true) (hbc : same b c = true) :
    same a c = true := by
  induction a using induction_parts generalizing b c with
  | _ a ih =>
    rw [same_iff_alike] at hab hbc ⊢
    cases hab with
    | token t ha hb => cases hbc with
      | token u hb' hc =>
        obtain rfl : t = u := Option.some.inj (hb.symm.trans hb')
        exact .token t ha hc
      | sets hb' hc h =>
        rw [members?_eq_none_of_token? hb] at hb'
        cases hb'
      | _ => cases hb
    | list h => cases hbc with
      | list h' => exact .list (forall₂_trans (fun x hx y z => ih x hx) h h')
      | token t hb hc => cases hb
      | sets hb hc h => cases hb
    | tuple h => cases hbc with
      | tuple h' => exact .tuple (forall₂_trans (fun x hx y z => ih x hx) h h')
      | token t hb hc => cases hb
      | sets hb hc h => cases hb
    | sets ha hb h => cases hbc with
      | sets hb' hc h' =>
        obtain rfl := Option.some.inj (hb.symm.trans hb')
        exact .sets ha hc (h.trans (fun x hx y z => ih x (parts_of_members? ha ▸ hx)) h')
      | token t hb' hc =>
        rw [members?_eq_none_of_token? hb'] at hb
        cases hb
      | _ => cases hb
    | map h => cases hbc with
      | map h' =>
        refine .map (h.trans (fun e he f g hef hfg => ?_) h')
        have hparts := mem_parts_of_entry he
        exact ⟨ih e.1 hparts.1 hef.1 hfg.1, ih e.2 hparts.2 hef.2 hfg.2⟩
      | token t hb hc => cases hb
      | sets hb hc h => cases hb

/-- What is the same as a record type that is kept in a table is that record type. -/
theorem eq_of_same_model {m : Model} {b : Value} (h : same (model m) b = true) : b = model m := by
  rw [same_iff_alike] at h
  cases h with
  | token t ha hb =>
    obtain rfl := Option.some.inj ha
    exact token?_eq_some_iff.1 hb
  | sets ha hb h => cases ha

/-- Two keys that are the same are the same as the same values. -/
theorem same_congr_right {a b : Value} (h : same a b = true) (k : Value) :
    same k a = same k b := by
  rw [Bool.eq_iff_iff]
  exact ⟨fun hk => same_trans hk h, fun hk => same_trans hk (same_symm h)⟩

/-- Keys that are the same find the same. -/
theorem find?_congr {α : Type} {a b : Value} (h : same a b = true) (es : List (Value × α)) :
    find? a es = find? b es := by
  induction es with
  | nil => rfl
  | cons e es ih =>
    obtain ⟨k, v⟩ := e
    rw [find?, find?, same_congr_right h, ih]

/-- What is found under a key is what an entry has under a key that is the same. -/
theorem exists_of_find? {α : Type} {key : Value} {v : α} {es : List (Value × α)}
    (h : find? key es = some v) : ∃ k, (k, v) ∈ es ∧ same k key = true := by
  induction es with
  | nil => cases h
  | cons e es ih =>
    obtain ⟨k, w⟩ := e
    rw [find?] at h
    split at h
    · rename_i hk
      obtain rfl := Option.some.inj h
      exact ⟨k, List.mem_cons_self .., hk⟩
    · obtain ⟨k', hmem, hk'⟩ := ih h
      exact ⟨k', List.mem_cons_of_mem _ hmem, hk'⟩

/-- What is found in the first of two lists hides what is found in the second. -/
theorem find?_append {α : Type} (key : Value) (es fs : List (Value × α)) :
    find? key (es ++ fs) = (find? key es).or (find? key fs) := by
  induction es with
  | nil => rfl
  | cons e es ih =>
    obtain ⟨k, v⟩ := e
    rw [List.cons_append, find?, find?, ih]
    by_cases h : same k key = true <;> simp [h]

end Value

end Searchable
