import Searchable.Proofs.Criteria.Gathering

/-!
# Criteria in another order

Gathering does not depend on the order of the criteria, apart from the order in which columns are
first mentioned. Two criteria with different keys can be gathered in either order (`gather_swap`):
those that mention different columns do not meet, and of those that mention the same column two are
bounds on its two sides, or else both orders are in conflict. By induction on the rearrangement
what is found for each column is the same (`gatherAll_perm`).
-/

namespace Searchable.Criteria

variable {isRange : String → Bool} {done done' next last es : Entries Mention} {c xs ys : Criteria}
  {key other v w : Value} {a b : String}

/-- Whether the same is found for each column in two gatherings. -/
def SameGathered (done done' : Entries Mention) : Prop :=
  ∀ column, done.get? column = done'.get? column

/-- What is given for a column is the same where what is found is. -/
theorem SameGathered.givenSoFar? (h : SameGathered done done') (column : String) :
    Criteria.givenSoFar? done column = Criteria.givenSoFar? done' column := by
  unfold Criteria.givenSoFar?
  rw [h column]

/-- The same is found where the same is put. -/
theorem SameGathered.put (h : SameGathered done done') (column : String) (m : Mention) :
    SameGathered (done.put column m) (done'.put column m) := by
  intro name
  rw [Entries.get?_put, Entries.get?_put, h name]

/-- It does not matter in which order two columns are put. -/
theorem sameGathered_put_put (hne : a ≠ b) (m n : Mention) (done : Entries Mention) :
    SameGathered ((done.put a m).put b n) ((done.put b n).put a m) := by
  intro name
  simp only [Entries.get?_put]
  by_cases ha : name = a
  · have hb : name ≠ b := ha ▸ hne
    rw [if_neg hb, if_pos ha, if_pos ha]
  · rw [if_neg ha, if_neg ha]

/-- What is put first for a column does not matter when something is put for it again. -/
theorem sameGathered_put_self (m n p : Mention) (done : Entries Mention) :
    SameGathered ((done.put a m).put a p) ((done.put a n).put a p) := by
  intro name
  simp only [Entries.get?_put]
  by_cases ha : name = a
  · rw [if_pos ha, if_pos ha]
  · simp only [if_neg ha]

/-- Keys that are not the same have different names. -/
theorem ne_of_distinct (h : key.same other = false) (ha : key.text? = some a)
    (hb : other.text? = some b) : a ≠ b := by
  rintro rfl
  have hkey : Value.same (.text a) key = true := Value.same_text_iff.2 ha
  have hother : Value.same (.text a) other = true := Value.same_text_iff.2 hb
  rw [Value.same_trans (Value.same_symm hkey) hother] at h
  cases h

/-- Values under different names that mention one column, and that go together, are the two bounds
of the column and go together in the other order. -/
theorem merged?_swap (hne : a ≠ b)
    (hcolumn : columnOf (splitAmong? isRange) a = columnOf (splitAmong? isRange) b)
    {g? : Option Given} {g h : Given} (hg : merged? isRange a v g? = some g)
    (hh : merged? isRange b w (some g) = some h) :
    (∃ g', merged? isRange b w g? = some g' ∧ merged? isRange a v (some g') = some h) ∧
      ∀ key other, writtenBy isRange a key = writtenBy isRange b other := by
  -- What goes together are two bounds: a whole value goes with nothing else, before or after it.
  cases ha : splitAmong? isRange a with
  | none =>
    obtain ⟨-, rfl⟩ := (merged?_of_whole ha).1 hg
    cases hb : splitAmong? isRange b with
    | none => exact absurd (by rwa [columnOf_of_whole ha, columnOf_of_whole hb] at hcolumn) hne
    | some bound =>
      obtain ⟨low, high, hbefore, -⟩ := (merged?_of_bound hb).1 hh
      cases hbefore
  | some bound =>
    obtain ⟨base, side⟩ := bound
    obtain ⟨low, high, hbefore, rfl⟩ := (merged?_of_bound ha).1 hg
    cases hb : splitAmong? isRange b with
    | none =>
      have hnone := ((merged?_of_whole hb).1 hh).1
      cases side
      · exact absurd rfl (hnone v high)
      · exact absurd rfl (hnone low v)
    | some bound' =>
      obtain ⟨base', side'⟩ := bound'
      obtain rfl : base = base' := by
        rwa [columnOf_of_bound ha, columnOf_of_bound hb] at hcolumn
      -- Two names of bounds of one column differ in the side, so that each leaves the other's.
      have hsides : side ≠ side' := by
        rintro rfl
        exact hne ((splitAmong?_eq_some_iff.1 ha).2.2.trans (splitAmong?_eq_some_iff.1 hb).2.2.symm)
      obtain ⟨low', high', hafter, rfl⟩ := (merged?_of_bound hb).1 hh
      refine ⟨⟨.withBound low high side' w, (merged?_of_bound hb).2 ⟨low, high, hbefore, rfl⟩,
        (merged?_of_bound ha).2 ?_⟩, fun key other => by rw [writtenBy, writtenBy, ha, hb]; rfl⟩
      cases side with
      | low => cases side' with
        | low => exact absurd rfl hsides
        | high =>
          obtain ⟨rfl, rfl⟩ : v = low' ∧ high = high' := Given.bounds.inj hafter
          exact ⟨low, w, rfl, rfl⟩
      | high => cases side' with
        | low =>
          obtain ⟨rfl, rfl⟩ : low = low' ∧ v = high' := Given.bounds.inj hafter
          exact ⟨w, high, rfl, rfl⟩
        | high => exact absurd rfl hsides

/-- Gathering a criterion keeps two gatherings the same. -/
theorem gather_same (hsame : SameGathered done done') (h : gather isRange done key v = .ok next) :
    ∃ next', gather isRange done' key v = .ok next' ∧ SameGathered next next' := by
  obtain ⟨name, g, hkey, hg, rfl⟩ := gather_eq_ok_iff.1 h
  rw [hsame.givenSoFar?] at hg
  exact ⟨_, gather_eq_ok_iff.2 ⟨name, g, hkey, hg, rfl⟩, hsame.put _ _⟩

/-- Gathering criteria keeps two gatherings the same. -/
theorem gatherAll_same (hsame : SameGathered done done') (h : gatherAll isRange done c = .ok es) :
    ∃ es', gatherAll isRange done' c = .ok es' ∧ SameGathered es es' := by
  induction c generalizing done done' with
  | nil =>
    obtain rfl := Except.ok.inj h
    exact ⟨done', rfl, hsame⟩
  | cons e c ih =>
    obtain ⟨next, hnext, h⟩ := bind_eq_ok_iff.1 h
    obtain ⟨next', hnext', hsame⟩ := gather_same hsame hnext
    obtain ⟨es', hes', hsame⟩ := ih hsame h
    exact ⟨es', bind_eq_ok_iff.2 ⟨next', hnext', hes'⟩, hsame⟩

/-- Two criteria with different keys can be gathered in either order. -/
theorem gather_swap (hdistinct : key.same other = false)
    (hfirst : gather isRange done key v = .ok next)
    (hsecond : gather isRange next other w = .ok last) :
    ∃ next' last', gather isRange done other w = .ok next' ∧
      gather isRange next' key v = .ok last' ∧ SameGathered last last' := by
  obtain ⟨a, g, ha, hg, rfl⟩ := gather_eq_ok_iff.1 hfirst
  obtain ⟨b, h, hb, hh, rfl⟩ := gather_eq_ok_iff.1 hsecond
  rw [givenSoFar?_put] at hh
  by_cases hcolumn : columnOf (splitAmong? isRange) a = columnOf (splitAmong? isRange) b
  · rw [if_pos hcolumn.symm] at hh
    obtain ⟨⟨g', hg', hh'⟩, hwritten⟩ :=
      merged?_swap (ne_of_distinct hdistinct ha hb) hcolumn hg hh
    refine ⟨_, _, gather_eq_ok_iff.2 ⟨b, g', hb, hcolumn ▸ hg', rfl⟩,
      gather_eq_ok_iff.2 ⟨a, h, ha, ?_, rfl⟩, ?_⟩
    · rw [givenSoFar?_put, if_pos hcolumn]
      exact hh'
    · rw [hcolumn, hwritten key other]
      exact sameGathered_put_self _ _ _ done
  · rw [if_neg (Ne.symm hcolumn)] at hh
    refine ⟨_, _, gather_eq_ok_iff.2 ⟨b, h, hb, hh, rfl⟩,
      gather_eq_ok_iff.2 ⟨a, g, ha, ?_, rfl⟩, sameGathered_put_put hcolumn _ _ done⟩
    rw [givenSoFar?_put, if_neg hcolumn]
    exact hg

/-- Keys are distinct in any order. -/
theorem HasDistinctKeys.perm (h : HasDistinctKeys xs) (hperm : xs.Perm ys) :
    HasDistinctKeys ys := by
  refine (hperm.pairwise_iff ?_).1 h
  intro e f hef
  rw [← Bool.not_eq_true] at hef ⊢
  exact fun hfe => hef (Value.same_symm hfe)

/-- Criteria with distinct keys can be gathered in any order, and the same is found for each
column. -/
theorem gatherAll_perm (hperm : xs.Perm ys) (hxs : HasDistinctKeys xs)
    (h : gatherAll isRange done xs = .ok es) :
    ∃ es', gatherAll isRange done ys = .ok es' ∧ SameGathered es es' := by
  induction hperm generalizing done es with
  | nil => exact ⟨es, h, fun _ => rfl⟩
  | cons e _ ih =>
    obtain ⟨next, hnext, h⟩ := bind_eq_ok_iff.1 h
    obtain ⟨es', hes', hsame⟩ := ih (List.pairwise_cons.1 hxs).2 h
    exact ⟨es', bind_eq_ok_iff.2 ⟨next, hnext, hes'⟩, hsame⟩
  | swap e f zs =>
    obtain ⟨next, hnext, h⟩ := bind_eq_ok_iff.1 h
    obtain ⟨last, hlast, h⟩ := bind_eq_ok_iff.1 h
    have hdistinct : f.1.same e.1 = false := (List.pairwise_cons.1 hxs).1 e List.mem_cons_self
    obtain ⟨next', last', hnext', hlast', hswap⟩ := gather_swap hdistinct hnext hlast
    obtain ⟨es', hes', hsame⟩ := gatherAll_same hswap h
    exact ⟨es', bind_eq_ok_iff.2 ⟨next', hnext', bind_eq_ok_iff.2 ⟨last', hlast', hes'⟩⟩, hsame⟩
  | trans hxy _ ih ih' =>
    obtain ⟨mid, hmid, hfirst⟩ := ih hxs h
    obtain ⟨es', hes', hsecond⟩ := ih' (hxs.perm hxy) hmid
    exact ⟨es', hes', fun column => (hfirst column).trans (hsecond column)⟩

/-- Gathering criteria gathers the first of them. -/
theorem exists_of_gatherAll_append (h : gatherAll isRange done (xs ++ ys) = .ok es) :
    ∃ mid, gatherAll isRange done xs = .ok mid ∧ gatherAll isRange mid ys = .ok es := by
  rw [gatherAll_append] at h
  exact bind_eq_ok_iff.1 h

end Searchable.Criteria
