import Searchable.Criteria
import Searchable.Proofs.Chains
import Searchable.Proofs.Merging
import Searchable.Proofs.Value.Maps

/-!
# Gathering, key by key

What one criterion does to what has been gathered, whatever its key is. A key that is a name adds to
what is given for one column, and is in conflict if that column is then given whole and by a bound
(`merged?`); `gather_of_name` says that this is all that gathering it does. From it follow facts on
whole criteria by induction: what is found for a column afterwards comes from the criteria
(`comesFrom_of_gatherAll`), its bounds are the values under their names
(`sideSoFar_of_gatherAll`), and a column in conflict is given under its own name
(`exists_of_conflict`).
-/

namespace Searchable

/-- The endings of the two bounds differ in their last character. -/
theorem Side.eq_of_append_ending {a b : String} {side other : Side}
    (h : a ++ side.ending = b ++ other.ending) : side = other := by
  have hl := congrArg (fun s => s.toList.getLast?) h
  cases side with
  | low => cases other with
    | low => rfl
    | high => simp [ending, lowEnding, highEnding] at hl
  | high => cases other with
    | low => simp [ending, lowEnding, highEnding] at hl
    | high => rfl

/-- The value that is given for one of the bounds; for a column that is given whole there is
none. -/
def Given.side : Given → Side → Value
  | .bounds low _, .low => low
  | .bounds _ high, .high => high
  | .whole _, _ => .null

/-- A bound that is set is the value it is set to, and the other bound stays. -/
theorem Given.side_withBound (low high v : Value) (set side : Side) :
    (Given.withBound low high set v).side side =
      if set = side then v else (Given.bounds low high).side side := by
  cases set <;> cases side <;> rfl

namespace Criteria

variable {isRange : String → Bool} {done next es : Entries Mention} {c xs ys : Criteria}
  {key v : Value} {name column : String}

/-- A name is split exactly when it is made of a name and an ending. -/
theorem splitKey?_eq_some_iff {key base : String} {side : Side} :
    splitKey? key = some (base, side) ↔ base ≠ "" ∧ key = base ++ side.ending := by
  have hnone : ∀ b, baseBefore? .low key = some b → ∀ b', baseBefore? .high key ≠ some b' := by
    intro b hb b' hb'
    rw [baseBefore?_eq_some_iff] at hb hb'
    have := Side.eq_of_append_ending (hb.2.symm.trans hb'.2)
    cases this
  unfold splitKey?
  cases side with
  | low =>
    rw [← baseBefore?_eq_some_iff]
    cases hl : baseBefore? .low key with
    | none => simp
    | some b => simp
  | high =>
    rw [← baseBefore?_eq_some_iff]
    cases hl : baseBefore? .low key with
    | none => simp
    | some b => simpa using fun h => hnone b hl base h

/-- A name speaks of a bound of a column exactly when it is made of the column and the bound's
ending, and the bounds of that column may be given one by one. -/
theorem splitAmong?_eq_some_iff {isRange : String → Bool} {key base : String} {side : Side} :
    splitAmong? isRange key = some (base, side) ↔
      base ≠ "" ∧ isRange base = true ∧ key = base ++ side.ending := by
  unfold splitAmong?
  rw [Option.filter_eq_some_iff, splitKey?_eq_some_iff]
  constructor
  · rintro ⟨⟨hne, hk⟩, hr⟩
    exact ⟨hne, hr, hk⟩
  · rintro ⟨hne, hr, hk⟩
    exact ⟨⟨hne, hk⟩, hr⟩

/-- The column that a name mentions. -/
def columnOf (bound? : String → Option (String × Side)) (key : String) : String :=
  (bound? key).elim key Prod.fst

/-- Whether no two criteria have the same key, as in a map. -/
def HasDistinctKeys (c : Criteria) : Prop :=
  c.Pairwise fun e f => e.1.same f.1 = false

/-- What is given for a column when a value under a name that mentions it is added to what is given
so far. There is nothing if the column is then given whole and by a bound. -/
def merged? (isRange : String → Bool) (name : String) (v : Value) (g? : Option Given) :
    Option Given :=
  match splitAmong? isRange name, g? with
  | none, some (.bounds _ _) => none
  | none, _ => some (.whole v)
  | some _, some (.whole _) => none
  | some (_, side), some (.bounds low high) => some (.withBound low high side v)
  | some (_, side), none => some (.withBound .null .null side v)

/-- How the column that a key mentions is written: as the key, or as a text if the key names a
bound. -/
def writtenBy (isRange : String → Bool) (name : String) (key : Value) : Value :=
  (splitAmong? isRange name).elim key fun bound => .text bound.1

/-- A key is the request name that it has as a text, and no other. -/
theorem nameOf_eq_ok_iff : nameOf key = .ok name ↔ key.text? = some name := by
  unfold nameOf
  cases hkey : key.text? with
  | some other => simp
  | none => cases key <;> simp

/-- A key that is no text is no request name. -/
theorem exists_nameOf_error (h : key.text? = none) : ∃ m, nameOf key = .error m := by
  cases hname : nameOf key with
  | error m => exact ⟨m, rfl⟩
  | ok name =>
    rw [nameOf_eq_ok_iff, h] at hname
    cases hname

/-- Gathering a key that is no request name fails in the same way whatever has been gathered. -/
theorem gather_of_noName {m : Misuse} (h : nameOf key = .error m) (done : Entries Mention)
    (v : Value) : gather isRange done key v = .error (.noName m) := by
  unfold gather
  rw [h]
  rfl

/-- Gathering a name adds its value to what is given for the column that it mentions. -/
theorem gather_of_name (h : key.text? = some name) (done : Entries Mention) (v : Value) :
    gather isRange done key v =
      match merged? isRange name v (givenSoFar? done (columnOf (splitAmong? isRange) name)) with
      | none => .error (.conflict (writtenBy isRange name key))
      | some g => .ok (done.put (columnOf (splitAmong? isRange) name)
          ⟨writtenBy isRange name key, g⟩) := by
  unfold gather
  rw [nameOf_eq_ok_iff.2 h]
  unfold merged? writtenBy columnOf
  simp only [mapError_ok, bind, Except.bind]
  cases splitAmong? isRange name with
  | none =>
    simp only [Option.elim_none]
    cases givenSoFar? done name with
    | none => rfl
    | some g => cases g <;> rfl
  | some bound =>
    obtain ⟨base, side⟩ := bound
    simp only [Option.elim_some]
    cases givenSoFar? done base with
    | none => rfl
    | some g => cases g <;> rfl

/-- Gathering a criterion succeeds exactly when its key is a name and what is given under it goes
with what has been given for the column that it mentions. -/
theorem gather_eq_ok_iff :
    gather isRange done key v = .ok next ↔
      ∃ name g, key.text? = some name ∧
        merged? isRange name v (givenSoFar? done (columnOf (splitAmong? isRange) name)) = some g ∧
        next = done.put (columnOf (splitAmong? isRange) name) ⟨writtenBy isRange name key, g⟩ := by
  cases hkey : key.text? with
  | none =>
    obtain ⟨m, hm⟩ := exists_nameOf_error hkey
    simp [gather_of_noName hm]
  | some name =>
    rw [gather_of_name hkey]
    cases hg : merged? isRange name v
        (givenSoFar? done (columnOf (splitAmong? isRange) name)) with
    | none => simp [hg]
    | some g => simp [hg, eq_comm]

/-- A name that does not speak of a bound mentions the column of its own name. -/
theorem columnOf_of_whole (h : splitAmong? isRange name = none) :
    columnOf (splitAmong? isRange) name = name := by
  rw [columnOf, h]
  rfl

/-- A name that speaks of a bound mentions the column that it bounds. -/
theorem columnOf_of_bound {side : Side} (h : splitAmong? isRange name = some (column, side)) :
    columnOf (splitAmong? isRange) name = column := by
  rw [columnOf, h]
  rfl

/-- A name that does not speak of a bound gives its column whole, unless bounds are given. -/
theorem merged?_of_whole {g? : Option Given} {g : Given} (h : splitAmong? isRange name = none) :
    merged? isRange name v g? = some g ↔
      (∀ low high, g? ≠ some (.bounds low high)) ∧ g = .whole v := by
  unfold merged?
  rw [h]
  cases g? with
  | none => simp [eq_comm]
  | some before => cases before <;> simp [eq_comm]

/-- A name that speaks of a bound sets it among those given so far, unless the column is given
whole. -/
theorem merged?_of_bound {side : Side} {g? : Option Given} {g : Given}
    (h : splitAmong? isRange name = some (column, side)) :
    merged? isRange name v g? = some g ↔
      ∃ low high, g?.getD (.bounds .null .null) = .bounds low high ∧
        g = .withBound low high side v := by
  unfold merged?
  rw [h]
  cases g? with
  | none => simp [eq_comm]
  | some before => cases before <;> simp [eq_comm]

/-- Gathering goes through criteria in order. -/
theorem gatherAll_append (isRange : String → Bool) (done : Entries Mention) (xs ys : Criteria) :
    gatherAll isRange done (xs ++ ys) =
      (gatherAll isRange done xs).bind fun next => gatherAll isRange next ys := by
  induction xs generalizing done with
  | nil => rfl
  | cons x xs ih =>
    obtain ⟨k, w⟩ := x
    rw [List.cons_append, gatherAll, gatherAll]
    cases gather isRange done k w with
    | error o => rfl
    | ok next => exact ih next

/-- Gathering lists no column twice. -/
theorem nodup_names_of_gatherAll (hdone : done.names.Nodup)
    (h : gatherAll isRange done c = .ok es) : es.names.Nodup := by
  induction c generalizing done with
  | nil =>
    obtain rfl := Except.ok.inj h
    exact hdone
  | cons e c ih =>
    obtain ⟨next, hnext, h⟩ := bind_eq_ok_iff.1 h
    obtain ⟨name, g, -, -, rfl⟩ := gather_eq_ok_iff.1 hnext
    exact ih (Entries.nodup_names_put hdone _) h

/-- What is given for a column after a mention is set. -/
theorem givenSoFar?_put (done : Entries Mention) (target : String) (m : Mention) (column : String) :
    givenSoFar? (done.put target m) column =
      if column = target then some m.given else givenSoFar? done column := by
  rw [givenSoFar?, Entries.get?_put]
  split <;> rfl

section Keys

/-- A key is the same as a text exactly when it is that text or its name. -/
theorem same_text_right_iff {text : String} :
    key.same (.text text) = true ↔ key.text? = some text :=
  ⟨fun h => Value.same_text_iff.1 (Value.same_symm h), fun h =>
    Value.same_symm (Value.same_text_iff.2 h)⟩

/-- Nothing is found under a key that no criterion has. -/
theorem find?_eq_none (h : ∀ e ∈ c, e.1.same key = false) : Value.find? key c = none := by
  rw [Option.eq_none_iff_forall_ne_some]
  intro w hw
  obtain ⟨k, hk, hsame⟩ := Value.exists_of_find? hw
  rw [h _ hk] at hsame
  cases hsame

/-- The value under a name of criteria. -/
theorem find?_ofEntries (name : String) (c : Entries Value) :
    Value.find? (.text name) (ofEntries c) = c.get? name := by
  induction c with
  | nil => rfl
  | cons e c ih =>
    obtain ⟨n, v⟩ := e
    have hsame : (Value.text n).same (.text name) = true ↔ n = name :=
      same_text_right_iff.trans Option.some_inj
    have hcons : ofEntries ((n, v) :: c) = (.text n, v) :: ofEntries c := rfl
    rw [hcons, Value.find?, ih, Entries.get?]
    simp only [hsame]

/-- Criteria under names have distinct keys exactly when the names are distinct. -/
theorem hasDistinctKeys_ofEntries {c : Entries Value} :
    HasDistinctKeys (ofEntries c) ↔ c.names.Nodup := by
  have hsame (a b : String) : (Value.text a).same (.text b) = false ↔ a ≠ b := by
    rw [← Bool.not_eq_true, same_text_right_iff]
    exact not_congr Option.some_inj
  unfold HasDistinctKeys ofEntries Entries.names List.Nodup
  rw [List.pairwise_map, List.pairwise_map]
  simp only [hsame]

end Keys

section Bounds

/-- The value of a bound of a column so far; where none is given, it is nothing. -/
def sideSoFar (done : Entries Mention) (column : String) (side : Side) : Value :=
  ((givenSoFar? done column).getD (.bounds .null .null)).side side

/-- Gathering a criterion sets the bound that its key names, and no other. -/
theorem sideSoFar_of_gather (hne : column ≠ "") (hr : isRange column = true)
    (h : gather isRange done key v = .ok next) (side : Side) :
    sideSoFar next column side =
      if key.text? = some (column ++ side.ending) then v else sideSoFar done column side := by
  obtain ⟨name, g, hkey, hg, rfl⟩ := gather_eq_ok_iff.1 h
  have hbound : splitAmong? isRange (column ++ side.ending) = some (column, side) :=
    splitAmong?_eq_some_iff.2 ⟨hne, hr, rfl⟩
  simp only [hkey, Option.some_inj, sideSoFar, givenSoFar?_put]
  cases hsplit : splitAmong? isRange name with
  | none =>
    have hname : name ≠ column ++ side.ending := by
      rintro rfl
      rw [hsplit] at hbound
      cases hbound
    rw [columnOf_of_whole hsplit] at hg ⊢
    obtain ⟨hbefore, rfl⟩ := (merged?_of_whole hsplit).1 hg
    rw [if_neg hname]
    by_cases hcolumn : column = name
    · -- A column that is given whole has no bounds, before or after.
      rw [if_pos hcolumn, hcolumn]
      cases hsofar : givenSoFar? done name with
      | none => cases side <;> rfl
      | some before => cases before with
        | whole w => rfl
        | bounds low high => exact absurd hsofar (hbefore low high)
    · rw [if_neg hcolumn]
  | some bound =>
    obtain ⟨base, set⟩ := bound
    obtain ⟨-, -, hname⟩ := splitAmong?_eq_some_iff.1 hsplit
    rw [columnOf_of_bound hsplit] at hg ⊢
    obtain ⟨low, high, hbefore, rfl⟩ := (merged?_of_bound hsplit).1 hg
    -- The key sets the bound that is asked for exactly if its column and its side are those.
    by_cases hcolumn : column = base
    · have hside : name = column ++ side.ending ↔ set = side := by
        rw [hname, hcolumn]
        exact ⟨Side.eq_of_append_ending, fun h => by rw [h]⟩
      rw [if_pos hcolumn, Option.getD_some, Given.side_withBound, hcolumn, hbefore]
      simp only [← hcolumn, hside]
    · have hother : name ≠ column ++ side.ending := by
        rintro rfl
        rw [hbound] at hsplit
        exact hcolumn (Prod.mk.inj (Option.some.inj hsplit)).1
      rw [if_neg hcolumn, if_neg hother]

/-- When criteria with distinct keys have been gathered, a bound of a column is the value under its
name, or what it was before. -/
theorem sideSoFar_of_gatherAll (hne : column ≠ "") (hr : isRange column = true)
    (hc : c.HasDistinctKeys) (h : gatherAll isRange done c = .ok es) (side : Side) :
    sideSoFar es column side =
      (Value.find? (.text (column ++ side.ending)) c).getD (sideSoFar done column side) := by
  induction c generalizing done with
  | nil =>
    obtain rfl := Except.ok.inj h
    rfl
  | cons e c ih =>
    obtain ⟨key, v⟩ := e
    obtain ⟨next, hnext, h⟩ := bind_eq_ok_iff.1 h
    -- The first criterion sets the bound or leaves it, and if it sets it no later one does.
    rw [ih (List.pairwise_cons.1 hc).2 h, sideSoFar_of_gather hne hr hnext, Value.find?]
    by_cases hkey : key.text? = some (column ++ side.ending)
    · have hsame : key.same (.text (column ++ side.ending)) = true := same_text_right_iff.2 hkey
      have hnone : Value.find? (.text (column ++ side.ending)) c = none := by
        rw [← Value.find?_congr hsame]
        refine find?_eq_none fun f hf => ?_
        rw [Value.same_comm]
        exact (List.pairwise_cons.1 hc).1 f hf
      rw [if_pos hkey, if_pos hsame, hnone]
      rfl
    · rw [if_neg hkey, if_neg (mt same_text_right_iff.1 hkey)]

end Bounds

section Origin

/-- Whether what is found for a column may come from criteria: it is given whole under its own name,
which names no bound, or by its bounds. -/
inductive ComesFrom (isRange : String → Bool) (c : Criteria) (column : String) :
    Mention → Prop where
  /-- It is given whole. -/
  | whole {key v : Value} (hmem : (key, v) ∈ c) (hkey : key.text? = some column)
      (hfree : splitAmong? isRange column = none) : ComesFrom isRange c column ⟨key, .whole v⟩
  /-- It is given by its bounds. -/
  | bounds (low high : Value) : ComesFrom isRange c column ⟨.text column, .bounds low high⟩

/-- What gathering one of some criteria sets comes from them. -/
theorem ComesFrom.of_gather (hmem : (key, v) ∈ c)
    (hdone : ∀ column m, done.get? column = some m → ComesFrom isRange c column m)
    (h : gather isRange done key v = .ok next) :
    ∀ column m, next.get? column = some m → ComesFrom isRange c column m := by
  obtain ⟨name, g, hkey, hg, rfl⟩ := gather_eq_ok_iff.1 h
  intro column m hm
  by_cases hcolumn : column = columnOf (splitAmong? isRange) name
  · rw [hcolumn, Entries.get?_put_self] at hm
    obtain rfl := Option.some.inj hm
    rw [hcolumn, writtenBy]
    cases hsplit : splitAmong? isRange name with
    | none =>
      obtain ⟨-, rfl⟩ := (merged?_of_whole hsplit).1 hg
      rw [columnOf_of_whole hsplit]
      exact .whole hmem hkey hsplit
    | some bound =>
      obtain ⟨base, side⟩ := bound
      obtain ⟨low, high, -, rfl⟩ := (merged?_of_bound hsplit).1 hg
      rw [columnOf_of_bound hsplit]
      cases side <;> exact .bounds _ _
  · rw [Entries.get?_put_of_ne _ _ hcolumn] at hm
    exact hdone column m hm

/-- What is found after gathering some of the criteria comes from them, if what was found before
does. -/
theorem ComesFrom.of_gatherAll (hsub : xs ⊆ c)
    (hdone : ∀ column m, done.get? column = some m → ComesFrom isRange c column m)
    (h : gatherAll isRange done xs = .ok es) :
    ∀ column m, es.get? column = some m → ComesFrom isRange c column m := by
  induction xs generalizing done with
  | nil =>
    obtain rfl := Except.ok.inj h
    exact hdone
  | cons e xs ih =>
    obtain ⟨next, hnext, h⟩ := bind_eq_ok_iff.1 h
    obtain ⟨he, hsub⟩ := List.cons_subset.1 hsub
    exact ih hsub (ComesFrom.of_gather he hdone hnext) h

/-- What is found for a column after gathering criteria comes from them. -/
theorem comesFrom_of_gatherAll (h : gatherAll isRange [] c = .ok es) {m : Mention}
    (hm : es.get? column = some m) : ComesFrom isRange c column m :=
  ComesFrom.of_gatherAll (List.Subset.refl c) (fun _ _ h => by cases h) h column m hm

/-- A column that is in conflict is given under its own name, which names no bound. -/
theorem exists_of_conflict {w : Value} (hsub : xs ⊆ c)
    (hdone : ∀ column m, done.get? column = some m → ComesFrom isRange c column m)
    (h : gatherAll isRange done xs = .error (.conflict w)) :
    ∃ column, w.text? = some column ∧ splitAmong? isRange column = none ∧
      ∃ e ∈ c, e.1.text? = some column := by
  induction xs generalizing done with
  | nil => cases h
  | cons e xs ih =>
    obtain ⟨key, v⟩ := e
    obtain ⟨he, hsub⟩ := List.cons_subset.1 hsub
    rw [gatherAll] at h
    cases hnext : gather isRange done key v with
    | ok next =>
      rw [hnext] at h
      exact ih hsub (ComesFrom.of_gather he hdone hnext) h
    | error o =>
      rw [hnext] at h
      obtain rfl := Except.error.inj h
      cases hkey : key.text? with
      | none =>
        obtain ⟨m, hm⟩ := exists_nameOf_error hkey
        rw [gather_of_noName hm] at hnext
        cases hnext
      | some name =>
        rw [gather_of_name hkey] at hnext
        cases hg : merged? isRange name v
            (givenSoFar? done (columnOf (splitAmong? isRange) name)) with
        | some g =>
          rw [hg] at hnext
          cases hnext
        | none =>
          rw [hg] at hnext
          obtain rfl : writtenBy isRange name key = w := by simpa using hnext
          rw [writtenBy]
          cases hsplit : splitAmong? isRange name with
          | none => exact ⟨name, hkey, hsplit, _, he, hkey⟩
          | some bound =>
            -- The bound is refused because its column has been given whole.
            obtain ⟨base, side⟩ := bound
            refine ⟨base, rfl, ?_⟩
            rw [columnOf_of_bound hsplit] at hg
            cases hm : done.get? base with
            | none => simp [merged?, hsplit, givenSoFar?, hm] at hg
            | some m => cases hdone base m hm with
              | whole hmem hwhole hfree => exact ⟨hfree, _, hmem, hwhole⟩
              | bounds low high => simp [merged?, hsplit, givenSoFar?, hm] at hg

end Origin

end Criteria

end Searchable
