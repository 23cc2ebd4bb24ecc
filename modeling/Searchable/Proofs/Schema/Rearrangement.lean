import Mathlib.Data.List.Nodup
import Searchable.Proofs.Criteria.Rearranging
import Searchable.Proofs.Schema.Forms
import Searchable.Proofs.Schema.Phases

/-!
# Order and blank criteria do not count

Whether criteria compile does not depend on their order, and where they do, neither their order nor
blank criteria among them change what any column comes to (`Schema.compile_rearranged`). Groups of
clauses are compared under the columns that they belong to (`Schema.columnGroups`). What carries the
proof is that a gathering comes to the clauses of another column by column, or to none for columns
that are not mentioned in it (`Schema.Covers`): criteria in another order are gathered to the same,
and a blank criterion that is left out is either the only one for its column, which comes to no
clauses, or a bound, of which only that it is blank counts.
-/

namespace Searchable

/-- Whether one value may stand for another as a bound: it is the same, or both are blank. -/
def Value.SameBound (v w : Value) : Prop :=
  v = w ∨ v.isBlank = true ∧ w.isBlank = true

/-- What may stand for nothing as a bound is blank. -/
theorem Value.SameBound.isBlank {v : Value} (h : v.SameBound .null) : v.isBlank = true := by
  rcases h with rfl | ⟨hv, -⟩
  · rfl
  · exact hv

namespace Strategy

variable {target : String} {low high low' high' : Value}

/-- Of a blank bound of a closed range only that it is blank counts. -/
theorem closedClauses_congr (hlow : low.SameBound low') (hhigh : high.SameBound high') :
    closedClauses target low high = closedClauses target low' high' := by
  unfold closedClauses
  rcases hlow with rfl | ⟨hl, hl'⟩
  · rcases hhigh with rfl | ⟨hh, hh'⟩
    · rfl
    · cases low.isBlank <;> simp [hh, hh']
  · rcases hhigh with rfl | ⟨hh, hh'⟩
    · cases high.isBlank <;> simp [hl, hl']
    · simp [hl, hl', hh, hh']

/-- Of a blank bound of an open range only that it is blank counts. -/
theorem openClauses_congr (hlow : low.SameBound low') (hhigh : high.SameBound high') :
    openClauses target low high = openClauses target low' high' := by
  rw [openClauses_eq, openClauses_eq]
  rcases hlow with rfl | ⟨hl, hl'⟩
  · rcases hhigh with rfl | ⟨hh, hh'⟩
    · rfl
    · rw [if_pos hh, if_pos hh']
  · rcases hhigh with rfl | ⟨hh, hh'⟩
    · rw [if_pos hl, if_pos hl']
    · rw [if_pos hl, if_pos hl', if_pos hh, if_pos hh']

/-- Of a blank bound of a range only that it is blank counts. -/
theorem clauses_pair_congr {s : Strategy} (hs : s.isRange = true) (column : Value)
    (hlow : low.SameBound low') (hhigh : high.SameBound high') :
    s.clauses column target (.pair low high) = s.clauses column target (.pair low' high') := by
  cases s with
  | closedRange => exact closedClauses_congr hlow hhigh
  | openRange => exact openClauses_congr hlow hhigh
  | matchFull | matchPartial | including => cases hs

/-- A range without bounds comes to no clauses. -/
theorem clauses_pair_of_blank {s : Strategy} (hs : s.isRange = true) (column : Value)
    (hlow : low.isBlank = true) (hhigh : high.isBlank = true) :
    s.clauses column target (.pair low high) = .ok [] := by
  have hlow : low.SameBound .null := .inr ⟨hlow, rfl⟩
  have hhigh : high.SameBound .null := .inr ⟨hhigh, rfl⟩
  rw [clauses_pair_congr hs column hlow hhigh]
  cases s with
  | closedRange | openRange => rfl
  | matchFull | matchPartial | including => cases hs

end Strategy

namespace Schema

variable {s : Schema} {c c' : Criteria} {done es es' : Entries Mention} {column : String}
  {key v : Value} {g : List Clause}

/-- The groups of clauses of criteria under the columns that they belong to, without the columns
that come to no clauses. -/
def columnGroups (s : Schema) (c : Criteria) : Except Failure (Entries (List Clause)) := do
  let columns ← Criteria.fold (some s.ranges) c
  s.checkDeclared columns
  let groups ← s.groups columns
  return (columns.names.zip groups).filter fun e => !e.2.isEmpty

/-- The clauses that a column comes to when criteria have been gathered; for a column that is not
mentioned there are none. -/
def clausesIn (s : Schema) (es : Entries Mention) (column : String) :
    Except Failure (List Clause) :=
  (es.get? column).elim (.ok []) (s.clausesOf column)

/-- Whether a gathering mentions no more columns than another and comes to the same clauses, where
the other comes to any. -/
structure Covers (s : Schema) (es es' : Entries Mention) : Prop where
  /-- Each column is mentioned in the other. -/
  names : es'.names ⊆ es.names
  /-- Each column comes to the same clauses. -/
  clauses : ∀ column g, s.clausesIn es column = .ok g → s.clausesIn es' column = .ok g

section Groups

/-- Columns are declared exactly when each of them is. -/
theorem checkDeclared_eq_ok_iff :
    s.checkDeclared es = .ok () ↔ es.names ⊆ s.strategies.names := by
  induction es with
  | nil => simp [checkDeclared, Entries.names]
  | cons e es ih =>
    obtain ⟨n, m⟩ := e
    have hnames : Entries.names ((n, m) :: es) = n :: Entries.names es := rfl
    rw [checkDeclared, hnames, List.cons_subset, ← Entries.contains_iff, ← ih]
    cases s.strategies.contains n <;> simp

/-- There are groups of columns exactly when each column comes to its group. -/
theorem groups_eq_ok_iff {groups : List (List Clause)} :
    s.groups es = .ok groups ↔
      List.Forall₂ (fun e group => s.clausesOf e.1 e.2 = .ok group) es groups := by
  induction es generalizing groups with
  | nil =>
    rw [List.forall₂_nil_left_iff]
    exact ⟨fun h => (Except.ok.inj h).symm, fun h => h ▸ rfl⟩
  | cons e es ih =>
    rw [List.forall₂_cons_left_iff]
    constructor
    · intro h
      obtain ⟨group, hgroup, h⟩ := bind_eq_ok_iff.1 h
      obtain ⟨others, hothers, h⟩ := bind_eq_ok_iff.1 h
      exact ⟨group, others, hgroup, ih.1 hothers, (Except.ok.inj h).symm⟩
    · rintro ⟨group, others, hgroup, hothers, rfl⟩
      exact bind_eq_ok_iff.2 ⟨group, hgroup, bind_eq_ok_iff.2 ⟨others, ih.2 hothers, rfl⟩⟩

/-- There are groups of columns exactly when each column comes to one. -/
theorem exists_groups_iff :
    (∃ groups, s.groups es = .ok groups) ↔
      ∀ e ∈ es, ∃ group, s.clausesOf e.1 e.2 = .ok group := by
  simp only [groups_eq_ok_iff]
  induction es with
  | nil => simp
  | cons e es ih =>
    rw [List.forall_mem_cons, ← ih]
    constructor
    · rintro ⟨_, h⟩
      obtain ⟨group, others, hgroup, hothers, -⟩ := List.forall₂_cons_left_iff.1 h
      exact ⟨⟨group, hgroup⟩, others, hothers⟩
    · rintro ⟨⟨group, hgroup⟩, others, hothers⟩
      exact ⟨group :: others, .cons hgroup hothers⟩

/-- A group stands under a column exactly when the column is mentioned and comes to it. -/
theorem mem_zip_iff {groups : List (List Clause)} (h : s.groups es = .ok groups) :
    (column, g) ∈ es.names.zip groups ↔ ∃ m, (column, m) ∈ es ∧ s.clausesOf column m = .ok g := by
  rw [groups_eq_ok_iff] at h
  induction h with
  | nil => simp [Entries.names]
  | @cons e group es groups hgroup _ ih =>
    obtain ⟨n, m⟩ := e
    have hzip : (Entries.names ((n, m) :: es)).zip (group :: groups) =
        (n, group) :: (Entries.names es).zip groups := rfl
    rw [hzip, List.mem_cons, ih]
    constructor
    · rintro (h | ⟨m', hm', hg⟩)
      · obtain ⟨rfl, rfl⟩ := Prod.mk.inj h
        exact ⟨m, List.mem_cons_self, hgroup⟩
      · exact ⟨m', List.mem_cons_of_mem _ hm', hg⟩
    · rintro ⟨m', hm', hg⟩
      rcases List.mem_cons.1 hm' with hm' | hm'
      · obtain ⟨rfl, rfl⟩ := Prod.mk.inj hm'
        have hsame : g = group := Except.ok.inj (hg.symm.trans hgroup)
        exact .inl (by rw [hsame])
      · exact .inr ⟨m', hm', hg⟩

/-- There is one group for each column. -/
theorem length_groups {groups : List (List Clause)} (h : s.groups es = .ok groups) :
    es.names.length = groups.length :=
  (List.length_map ..).trans (groups_eq_ok_iff.1 h).length_eq

/-- The clauses of all groups, without the columns that come to none. -/
theorem flatMap_filter_zip {groups : List (List Clause)} (names : List String)
    (h : names.length = groups.length) :
    ((names.zip groups).filter fun e => !e.2.isEmpty).flatMap Prod.snd = groups.flatten := by
  induction names generalizing groups with
  | nil =>
    obtain rfl : groups = [] := List.length_eq_zero_iff.1 h.symm
    rfl
  | cons name names ih => cases groups with
    | nil => cases h
    | cons group groups =>
      have hrest := ih (Nat.succ.inj h)
      rw [List.zip_cons_cons]
      cases group with
      | nil => rw [List.filter_cons_of_neg (by simp), hrest, List.flatten_cons, List.nil_append]
      | cons clause clauses =>
        rw [List.filter_cons_of_pos (by simp), List.flatMap_cons, hrest, List.flatten_cons]

/-- The clauses of a compiled condition are those of the groups of columns. -/
theorem compile_eq_columnGroups (s : Schema) (c : Criteria) (additional : Value) :
    s.compile c additional = do
      let groups ← s.columnGroups c
      let further ← (Condition.ofAdditional additional).mapError .misuse
      return .ofClauses (groups.flatMap Prod.snd) further := by
  unfold compile criteriaGroups columnGroups
  cases hcolumns : Criteria.fold (some s.ranges) c with
  | error f => rfl
  | ok columns =>
    simp only [bind, Except.bind]
    cases s.checkDeclared columns with
    | error f => rfl
    | ok _ =>
      cases hgroups : s.groups columns with
      | error f => rfl
      | ok groups =>
        simp only [pure, Except.pure, flatMap_filter_zip columns.names (length_groups hgroups)]

end Groups

section Covering

/-- Criteria come to groups exactly when their columns are declared and each comes to its group. -/
theorem columnGroups_eq_ok_iff {gs : Entries (List Clause)}
    (hes : Criteria.fold (some s.ranges) c = .ok es) :
    s.columnGroups c = .ok gs ↔
      es.names ⊆ s.strategies.names ∧ ∃ groups, s.groups es = .ok groups ∧
        gs = (es.names.zip groups).filter fun e => !e.2.isEmpty := by
  rw [← checkDeclared_eq_ok_iff]
  unfold columnGroups
  rw [hes]
  constructor
  · intro h
    obtain ⟨columns, hcolumns, h⟩ := bind_eq_ok_iff.1 h
    obtain rfl := Except.ok.inj hcolumns
    obtain ⟨_, hdeclared, h⟩ := bind_eq_ok_iff.1 h
    obtain ⟨groups, hgroups, h⟩ := bind_eq_ok_iff.1 h
    exact ⟨hdeclared, groups, hgroups, (Except.ok.inj h).symm⟩
  · rintro ⟨hdeclared, groups, hgroups, rfl⟩
    exact bind_eq_ok_iff.2 ⟨es, rfl, bind_eq_ok_iff.2 ⟨(), hdeclared, bind_eq_ok_iff.2
      ⟨groups, hgroups, rfl⟩⟩⟩

/-- A column that is mentioned comes to the clauses of its mention. -/
theorem clausesIn_of_mem {m : Mention} (hd : es.names.Nodup) (h : (column, m) ∈ es) :
    s.clausesIn es column = s.clausesOf column m := by
  rw [clausesIn, Entries.get?_of_mem hd h]
  rfl

/-- Where there are groups, each column comes to clauses. -/
theorem exists_clausesIn {groups : List (List Clause)} (h : s.groups es = .ok groups)
    (column : String) : ∃ g, s.clausesIn es column = .ok g := by
  unfold clausesIn
  cases hm : es.get? column with
  | none => exact ⟨[], rfl⟩
  | some m =>
    exact exists_groups_iff.1 ⟨groups, h⟩ (column, m) (Entries.mem_of_get? hm)

/-- The groups of criteria are the clauses that columns come to, where there are any. -/
theorem mem_columnGroups_iff {gs : Entries (List Clause)}
    (hes : Criteria.fold (some s.ranges) c = .ok es) (hd : es.names.Nodup)
    (h : s.columnGroups c = .ok gs) :
    (column, g) ∈ gs ↔ g ≠ [] ∧ s.clausesIn es column = .ok g := by
  obtain ⟨-, groups, hgroups, rfl⟩ := (columnGroups_eq_ok_iff hes).1 h
  rw [List.mem_filter, mem_zip_iff hgroups, Bool.not_eq_true', ← Bool.not_eq_true,
    List.isEmpty_iff, and_comm]
  refine and_congr_right fun hne => ?_
  constructor
  · rintro ⟨m, hm, hg⟩
    rw [clausesIn_of_mem hd hm, hg]
  · intro hg
    unfold clausesIn at hg
    cases hm : es.get? column with
    | none =>
      rw [hm] at hg
      exact absurd (Except.ok.inj hg).symm hne
    | some m =>
      rw [hm] at hg
      exact ⟨m, Entries.mem_of_get? hm, hg⟩

/-- No column has two groups. -/
theorem nodup_names_columnGroups {gs : Entries (List Clause)} (h : s.columnGroups c = .ok gs) :
    gs.names.Nodup := by
  obtain ⟨es, hes, -⟩ := bind_eq_ok_iff.1 h
  have hd : es.names.Nodup :=
    Criteria.nodup_names_of_gatherAll (by simp [Entries.names]) (mapError_eq_ok_iff.1 hes)
  obtain ⟨-, groups, hgroups, rfl⟩ := (columnGroups_eq_ok_iff hes).1 h
  have hzip : Entries.names (es.names.zip groups) = es.names :=
    List.map_fst_zip (Nat.le_of_eq (length_groups hgroups))
  have hsub : (Entries.names ((es.names.zip groups).filter fun e => !e.2.isEmpty)).Sublist
      (Entries.names (es.names.zip groups)) := List.filter_sublist.map Prod.fst
  exact (hzip ▸ hsub).nodup hd

/-- What a gathering covers comes to the same groups, in its own order. -/
theorem columnGroups_of_covers {gs : Entries (List Clause)}
    (hes : Criteria.fold (some s.ranges) c = .ok es)
    (hes' : Criteria.fold (some s.ranges) c' = .ok es') (hd : es.names.Nodup)
    (hd' : es'.names.Nodup) (hcovers : s.Covers es es') (h : s.columnGroups c = .ok gs) :
    ∃ gs', s.columnGroups c' = .ok gs' ∧ gs'.Perm gs := by
  obtain ⟨hdeclared, groups, hgroups, -⟩ := (columnGroups_eq_ok_iff hes).1 h
  have hclauses : ∀ e ∈ es', ∃ group, s.clausesOf e.1 e.2 = .ok group := by
    rintro ⟨n, m⟩ he
    obtain ⟨g, hg⟩ := exists_clausesIn hgroups n
    exact ⟨g, (clausesIn_of_mem hd' he).symm.trans (hcovers.clauses n g hg)⟩
  obtain ⟨groups', hgroups'⟩ := exists_groups_iff.2 hclauses
  have h' := (columnGroups_eq_ok_iff hes').2
    ⟨fun n hn => hdeclared (hcovers.names hn), groups', hgroups', rfl⟩
  refine ⟨_, h', (List.perm_ext_iff_of_nodup ?_ ?_).2 ?_⟩
  · exact (nodup_names_columnGroups h').of_map Prod.fst
  · exact (nodup_names_columnGroups h).of_map Prod.fst
  · rintro ⟨n, g⟩
    rw [mem_columnGroups_iff hes' hd' h', mem_columnGroups_iff hes hd h]
    refine and_congr_right fun _ => ⟨fun hg => ?_, hcovers.clauses n g⟩
    -- The column comes to some clauses in the gathering, and these are the only ones.
    obtain ⟨g', hg'⟩ := exists_clausesIn hgroups n
    have hsame : g' = g := Except.ok.inj ((hcovers.clauses n g' hg').symm.trans hg)
    rw [hg', hsame]

end Covering

section Omission

/-- What is found alike is covered. -/
theorem covers_of_sameGathered (h : Criteria.SameGathered es es') : s.Covers es es' where
  names name hname := by
    rw [← Entries.get?_isSome_iff, ← h name] at hname
    exact Entries.get?_isSome_iff.1 hname
  clauses column g hg := by
    rw [clausesIn, h column] at hg
    exact hg

/-- What is covered by something that is covered is covered. -/
theorem Covers.trans {mid : Entries Mention} (h : s.Covers es mid) (h' : s.Covers mid es') :
    s.Covers es es' where
  names := List.Subset.trans h'.names h.names
  clauses column g hg := h'.clauses column g (h.clauses column g hg)

/-- A range column has a range for its strategy. -/
theorem exists_strategy_of_ranges (hs : s.strategies.names.Nodup)
    (hr : s.ranges.contains column = true) :
    ∃ strategy, s.strategies.get? column = some strategy ∧ strategy.isRange = true := by
  obtain ⟨strategy, hmem, hrange⟩ := contains_ranges_iff.1 hr
  exact ⟨strategy, Entries.get?_of_mem hs hmem, hrange⟩

/-- Of a blank bound of a column only that it is blank counts. -/
theorem clausesOf_bounds_congr {strategy : Strategy} {low high low' high' : Value}
    (hs : s.strategies.get? column = some strategy) (hrange : strategy.isRange = true)
    (hlow : low.SameBound low') (hhigh : high.SameBound high') (written : Value) :
    s.clausesOf column ⟨written, .bounds low high⟩ =
      s.clausesOf column ⟨written, .bounds low' high'⟩ := by
  unfold clausesOf
  simp only [Given.value, Value.isBlank_pair, hs, Bool.false_eq_true, if_false]
  exact bind_congr fun target => Strategy.clauses_pair_congr hrange written hlow hhigh

/-- A range column with blank bounds comes to no clauses, if to any. -/
theorem eq_nil_of_clausesOf_bounds {strategy : Strategy} {low high written : Value}
    (hs : s.strategies.get? column = some strategy) (hrange : strategy.isRange = true)
    (hlow : low.isBlank = true) (hhigh : high.isBlank = true)
    (h : s.clausesOf column ⟨written, .bounds low high⟩ = .ok g) : g = [] := by
  unfold clausesOf at h
  simp only [Given.value, Value.isBlank_pair, hs, Bool.false_eq_true, if_false] at h
  obtain ⟨target, -, h⟩ := bind_eq_ok_iff.1 h
  rw [Strategy.clauses_pair_of_blank hrange written hlow hhigh] at h
  exact (Except.ok.inj h).symm

/-- A value that is set as a bound where there was none is as good as none if it is blank. -/
theorem sameBound_withBound {low high : Value} {side : Side} (hv : v.isBlank = true)
    (hnull : (Given.bounds low high).side side = .null) :
    ∃ low' high', Given.withBound low high side v = .bounds low' high' ∧
      low'.SameBound low ∧ high'.SameBound high := by
  cases side with
  | low =>
    obtain rfl : low = .null := hnull
    exact ⟨v, high, rfl, .inr ⟨hv, rfl⟩, .inl rfl⟩
  | high =>
    obtain rfl : high = .null := hnull
    exact ⟨low, v, rfl, .inl rfl, .inr ⟨hv, rfl⟩⟩

/-- A column with a blank value comes to no clauses. -/
theorem clausesOf_of_blank {m : Mention} (h : m.given.value.isBlank = true) :
    s.clausesOf column m = .ok [] := by
  rw [clausesOf, if_pos h]

/-- A column that one more criterion gives whole is not mentioned before. -/
theorem get?_eq_none_of_whole {name : String} (hnew : ∀ e ∈ c, e.1.same key = false)
    (hkey : key.text? = some name)
    (hbefore : ∀ low high, Criteria.givenSoFar? done name ≠ some (.bounds low high))
    (hdone : Criteria.gatherAll s.ranges.contains [] c = .ok done) : done.get? name = none := by
  cases hm : done.get? name with
  | none => rfl
  | some m =>
    cases Criteria.comesFrom_of_gatherAll hdone hm with
    | whole hmem hother _ => exact absurd rfl (Criteria.ne_of_distinct (hnew _ hmem) hother hkey)
    | bounds low high => exact absurd (by rw [Criteria.givenSoFar?, hm]; rfl) (hbefore low high)

/-- A bound that one more criterion sets is nothing before. -/
theorem side_eq_null_of_bound {side : Side} {low high : Value} (hne : column ≠ "")
    (hr : s.ranges.contains column = true) (hc : Criteria.HasDistinctKeys c)
    (hnew : ∀ e ∈ c, e.1.same key = false) (hkey : key.text? = some (column ++ side.ending))
    (hbefore : (Criteria.givenSoFar? done column).getD (.bounds .null .null) = .bounds low high)
    (hdone : Criteria.gatherAll s.ranges.contains [] c = .ok done) :
    (Given.bounds low high).side side = .null := by
  have hsame : key.same (.text (column ++ side.ending)) = true :=
    Criteria.same_text_right_iff.2 hkey
  have hside := Criteria.sideSoFar_of_gatherAll hne hr hc hdone side
  rw [← Value.find?_congr hsame, Criteria.find?_eq_none hnew, Criteria.sideSoFar, hbefore] at hside
  rw [hside]
  cases side <;> rfl

/-- One more criterion, whose value is blank, adds nothing to what columns come to. -/
theorem covers_of_blank (hs : s.strategies.names.Nodup) (hc : Criteria.HasDistinctKeys c)
    (hnew : ∀ e ∈ c, e.1.same key = false) (hv : v.isBlank = true)
    (hdone : Criteria.gatherAll s.ranges.contains [] c = .ok done)
    (h : Criteria.gather s.ranges.contains done key v = .ok es) : s.Covers es done := by
  obtain ⟨name, given, hkey, hgiven, rfl⟩ := Criteria.gather_eq_ok_iff.1 h
  refine ⟨fun n hn => Entries.mem_names_put.2 (.inl hn), fun column g hg => ?_⟩
  by_cases hcolumn : column = Criteria.columnOf (Criteria.splitAmong? s.ranges.contains) name
  · rw [clausesIn, hcolumn, Entries.get?_put_self, Option.elim_some] at hg
    rw [hcolumn]
    cases hsplit : Criteria.splitAmong? s.ranges.contains name with
    | none =>
      -- The column is given whole, and with a blank value it comes to no clauses.
      obtain ⟨hbefore, rfl⟩ := (Criteria.merged?_of_whole hsplit).1 hgiven
      rw [Criteria.columnOf_of_whole hsplit] at hbefore hg ⊢
      have hnone : g = [] := by
        rw [clausesOf_of_blank (m := ⟨_, .whole v⟩) hv] at hg
        exact (Except.ok.inj hg).symm
      rw [clausesIn, get?_eq_none_of_whole hnew hkey hbefore hdone, hnone]
      rfl
    | some bound =>
      obtain ⟨base, side⟩ := bound
      obtain ⟨hne, hr, rfl⟩ := Criteria.splitAmong?_eq_some_iff.1 hsplit
      obtain ⟨low, high, hbefore, rfl⟩ := (Criteria.merged?_of_bound hsplit).1 hgiven
      rw [Criteria.columnOf_of_bound hsplit] at hbefore hg ⊢
      obtain ⟨strategy, hstrategy, hrange⟩ := exists_strategy_of_ranges hs hr
      obtain ⟨low', high', hset, hlow, hhigh⟩ := sameBound_withBound hv
        (side_eq_null_of_bound hne hr hc hnew hkey hbefore hdone)
      rw [hset] at hg
      cases hm : done.get? base with
      | none =>
        -- The other bound is not given either.
        rw [Criteria.givenSoFar?, hm] at hbefore
        obtain ⟨rfl, rfl⟩ := Given.bounds.inj hbefore
        rw [clausesIn, hm,
          eq_nil_of_clausesOf_bounds hstrategy hrange hlow.isBlank hhigh.isBlank hg]
        rfl
      | some m =>
        rw [Criteria.givenSoFar?, hm] at hbefore
        cases Criteria.comesFrom_of_gatherAll hdone hm with
        | whole _ _ _ => cases hbefore
        | bounds low₀ high₀ =>
          obtain ⟨rfl, rfl⟩ := Given.bounds.inj hbefore
          rw [clausesIn, hm, Option.elim_some, ← hg, Criteria.writtenBy, hsplit]
          exact (clausesOf_bounds_congr hstrategy hrange hlow hhigh _).symm
  · rw [clausesIn, Entries.get?_put_of_ne _ _ hcolumn] at hg
    exact hg

/-- Criteria after the others add nothing to what columns come to if their values are blank. -/
theorem covers_of_removed {removed : Criteria} (hs : s.strategies.names.Nodup)
    (hc : Criteria.HasDistinctKeys (c ++ removed)) (hblank : ∀ e ∈ removed, e.2.isBlank = true)
    (hdone : Criteria.gatherAll s.ranges.contains [] c = .ok done)
    (h : Criteria.gatherAll s.ranges.contains done removed = .ok es) : s.Covers es done := by
  induction removed generalizing c done with
  | nil =>
    obtain rfl := Except.ok.inj h
    exact covers_of_sameGathered fun _ => rfl
  | cons e removed ih =>
    obtain ⟨key, v⟩ := e
    obtain ⟨hv, hblank⟩ := List.forall_mem_cons.1 hblank
    obtain ⟨next, hnext, h⟩ := bind_eq_ok_iff.1 h
    obtain ⟨hfront, -, hnew⟩ := List.pairwise_append.1 hc
    have hgathered : Criteria.gatherAll s.ranges.contains [] (c ++ [(key, v)]) = .ok next := by
      rw [Criteria.gatherAll_append, hdone, Except.bind]
      exact bind_eq_ok_iff.2 ⟨next, hnext, rfl⟩
    have hrest : s.Covers es next := by
      refine ih ?_ hblank hgathered h
      rwa [List.append_assoc, List.singleton_append]
    have hfirst : s.Covers next done :=
      covers_of_blank hs hfront (fun f hf => hnew f hf _ List.mem_cons_self) hv hdone hnext
    exact hrest.trans hfirst

end Omission

/-- Criteria that have been gathered in one order can be gathered in another and without any that
are blank, and what is gathered then is covered. -/
theorem exists_covers {removed : Criteria} (hs : s.strategies.names.Nodup)
    (hc : c.HasDistinctKeys) (hperm : (c' ++ removed).Perm c)
    (hblank : ∀ e ∈ removed, e.2.isBlank = true)
    (h : Criteria.fold (some s.ranges) c = .ok es) :
    ∃ es', Criteria.fold (some s.ranges) c' = .ok es' ∧ es'.names.Nodup ∧ s.Covers es es' := by
  have hgather : Criteria.gatherAll s.ranges.contains [] c = .ok es := mapError_eq_ok_iff.1 h
  obtain ⟨all, hall, hsame⟩ := Criteria.gatherAll_perm hperm.symm hc hgather
  obtain ⟨es', hes', hremoved⟩ := Criteria.exists_of_gatherAll_append hall
  refine ⟨es', mapError_eq_ok_iff.2 hes',
    Criteria.nodup_names_of_gatherAll (by simp [Entries.names]) hes', ?_⟩
  exact (covers_of_sameGathered hsame).trans
    (covers_of_removed hs (hc.perm hperm.symm) hblank hes' hremoved)

/-- Criteria that come to groups come to the same groups in another order and without any that are
blank. -/
theorem columnGroups_rearranged {removed : Criteria} {gs : Entries (List Clause)}
    (hs : s.strategies.names.Nodup) (hc : c.HasDistinctKeys) (hperm : (c' ++ removed).Perm c)
    (hblank : ∀ e ∈ removed, e.2.isBlank = true) (h : s.columnGroups c = .ok gs) :
    ∃ gs', s.columnGroups c' = .ok gs' ∧ gs'.Perm gs := by
  obtain ⟨es, hes, -⟩ := bind_eq_ok_iff.1 h
  have hd : es.names.Nodup :=
    Criteria.nodup_names_of_gatherAll (by simp [Entries.names]) (mapError_eq_ok_iff.1 hes)
  obtain ⟨es', hes', hd', hcovers⟩ := exists_covers hs hc hperm hblank hes
  exact columnGroups_of_covers hes hes' hd hd' hcovers h

/-- Whether the conditions of two criteria consist of the same groups of clauses, a group for a
column, in whatever order, and of the same further condition. -/
def SameGroups (s : Schema) (additional : Value) (c c' : Criteria) (r r' : Condition) : Prop :=
  ∃ gs gs' further, s.columnGroups c = .ok gs ∧ s.columnGroups c' = .ok gs' ∧
    gs.names.Nodup ∧ gs'.Perm gs ∧ Condition.ofAdditional additional = .ok further ∧
    r = .ofClauses (gs.flatMap Prod.snd) further ∧ r' = .ofClauses (gs'.flatMap Prod.snd) further

/-- Criteria that compile also do so in another order and without any that are blank, to the same
groups. -/
theorem exists_sameGroups {additional : Value} {removed : Criteria} {r : Condition}
    (hs : s.strategies.names.Nodup) (hc : c.HasDistinctKeys) (hperm : (c' ++ removed).Perm c)
    (hblank : ∀ e ∈ removed, e.2.isBlank = true) (h : s.compile c additional = .ok r) :
    ∃ r', s.compile c' additional = .ok r' ∧ s.SameGroups additional c c' r r' := by
  rw [compile_eq_columnGroups] at h
  obtain ⟨gs, hgs, h⟩ := bind_eq_ok_iff.1 h
  obtain ⟨further, hfurther, h⟩ := bind_eq_ok_iff.1 h
  obtain ⟨gs', hgs', hgroups⟩ := columnGroups_rearranged hs hc hperm hblank hgs
  refine ⟨.ofClauses (gs'.flatMap Prod.snd) further, ?_, gs, gs', further, hgs, hgs',
    nodup_names_columnGroups hgs, hgroups, mapError_eq_ok_iff.1 hfurther, (Except.ok.inj h).symm,
    rfl⟩
  rw [compile_eq_columnGroups]
  exact bind_eq_ok_iff.2 ⟨gs', hgs', bind_eq_ok_iff.2 ⟨further, hfurther, rfl⟩⟩

/-- Criteria that fail to compile fail in every order. Criteria that compile also do so in another
order and without any that are blank, and the groups of clauses that their columns come to are the
same, though they may come in another order. -/
theorem compile_rearranged (hs : s.strategies.names.Nodup) (hc : c.HasDistinctKeys)
    (additional : Value) :
    (c'.Perm c → (∃ f, s.compile c additional = .error f) →
      ∃ f, s.compile c' additional = .error f) ∧
    ∀ removed r, (c' ++ removed).Perm c → (∀ e ∈ removed, e.2.isBlank = true) →
      s.compile c additional = .ok r →
      ∃ r', s.compile c' additional = .ok r' ∧ s.SameGroups additional c c' r r' := by
  refine ⟨fun hperm ⟨f, hf⟩ => ?_, fun removed r => exists_sameGroups hs hc⟩
  cases h : s.compile c' additional with
  | error f' => exact ⟨f', rfl⟩
  | ok r =>
    -- What compiles in one order compiles in the other.
    have hback : (c ++ []).Perm c' := by
      rw [List.append_nil]
      exact hperm.symm
    obtain ⟨r', hcompiled, -⟩ :=
      exists_sameGroups hs (hc.perm hperm.symm) hback (List.forall_mem_nil _) h
    rw [hf] at hcompiled
    cases hcompiled

/-- A schema with a column of each kind of clauses. -/
def loans : Schema :=
  ⟨"Loan", [("due", .closedRange), ("title", .matchPartial), ("fee", .openRange),
    ("branch", .including)], [], .null, [("title", .text "b.title")], .text "find_all"⟩

/-- Criteria that begin with a blank bound and with a column without a value. -/
def loanCriteria : Criteria :=
  .ofEntries [("due_to", .text " "), ("branch", .list []), ("fee_to", .int 9),
    ("title", .text "Ice"), ("due_from", .int 20)]

/-- The same criteria the other way round, without those that are blank. -/
def filledLoanCriteria : Criteria :=
  .ofEntries [("due_from", .int 20), ("title", .text "Ice"), ("fee_to", .int 9)]

/-- Criteria with a name that is not declared. -/
def strangeLoanCriteria : Criteria :=
  .ofEntries [("title", .text "Ice"), ("shoe", .null)]

/-- Without the blank bound the groups of two columns change places, and an unknown name is refused
wherever it stands. -/
theorem loans_compile_rearranged :
    loans.strategies.names.Nodup ∧ loanCriteria.HasDistinctKeys ∧
      strangeLoanCriteria.HasDistinctKeys ∧
      (filledLoanCriteria ++ .ofEntries [("branch", .list []), ("due_to", .text " ")]).Perm
        loanCriteria ∧
      loans.compile loanCriteria .null =
        .ok ⟨"(? <= (due)) AND ((due) <= ?) AND ((fee) <= ?) AND ((b.title) LIKE ?)",
          [.int 20, .int 20, .int 9, .text "%Ice%"]⟩ ∧
      (∃ r', loans.compile filledLoanCriteria .null = .ok r' ∧
        loans.SameGroups .null loanCriteria filledLoanCriteria
          ⟨"(? <= (due)) AND ((due) <= ?) AND ((fee) <= ?) AND ((b.title) LIKE ?)",
            [.int 20, .int 20, .int 9, .text "%Ice%"]⟩ r') ∧
      loans.compile filledLoanCriteria .null =
        .ok ⟨"(? <= (due)) AND ((due) <= ?) AND ((b.title) LIKE ?) AND ((fee) <= ?)",
          [.int 20, .int 20, .text "%Ice%", .int 9]⟩ ∧
      (∃ f, loans.compile strangeLoanCriteria .null = .error f) ∧
      ∃ f, loans.compile strangeLoanCriteria.reverse .null = .error f := by
  have hs : loans.strategies.names.Nodup := by decide
  have hc : loanCriteria.HasDistinctKeys := Criteria.hasDistinctKeys_ofEntries.2 (by decide)
  have hstrange : strangeLoanCriteria.HasDistinctKeys :=
    Criteria.hasDistinctKeys_ofEntries.2 (by decide)
  have hperm : (filledLoanCriteria ++
      .ofEntries [("branch", .list []), ("due_to", .text " ")]).Perm loanCriteria :=
    loanCriteria.reverse_perm
  have hblank : ∀ e ∈ Criteria.ofEntries [("branch", .list []), ("due_to", .text " ")],
      e.2.isBlank = true := by decide
  have h : loans.compile loanCriteria .null =
      .ok ⟨"(? <= (due)) AND ((due) <= ?) AND ((fee) <= ?) AND ((b.title) LIKE ?)",
        [.int 20, .int 20, .int 9, .text "%Ice%"]⟩ := by rfl
  have hf : ∃ f, loans.compile strangeLoanCriteria .null = .error f := ⟨_, rfl⟩
  exact ⟨hs, hc, hstrange, hperm, h, (compile_rearranged hs hc .null).2 _ _ hperm hblank h, by rfl,
    hf, (compile_rearranged hs hstrange .null).1 strangeLoanCriteria.reverse_perm hf⟩

end Schema

end Searchable
