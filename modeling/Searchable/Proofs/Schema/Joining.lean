import Searchable.Proofs.Criteria.Gathering
import Searchable.Schema.Compile

/-!
# Bounds and pairs

To give the bounds of a range column one by one is to give the column their pair
(`Schema.compile_withPair`). Gathering goes the same way for both: up to the first bound nothing is
known of the column, and from there on what has been gathered differs in this column alone, which is
given by its bounds or whole (`joined`). In the end the bounds are those of the pair, and clauses
are made of what is given as one value.
-/

namespace Searchable

namespace Criteria

variable {isRange : String → Bool} {done es : Entries Mention} {c : Criteria} {key v w : Value}
  {name column : String}

/-- Whether a key is the name of a bound of a column. -/
def isBoundKey (column : String) (key : Value) : Bool :=
  key.text? == some (column ++ lowEnding) || key.text? == some (column ++ highEnding)

/-- The criteria with a value for a column as a whole in the place of the first of its bounds, and
without its other bounds. -/
def replaceBounds (column : String) (v : Value) : Criteria → Criteria
  | [] => []
  | (key, w) :: rest =>
    if isBoundKey column key then (.text column, v) :: rest.filter fun e => !isBoundKey column e.1
    else (key, w) :: replaceBounds column v rest

/-- The value under the name of a bound of a column; a missing one is nothing. -/
def boundUnder (c : Criteria) (column : String) (side : Side) : Value :=
  (Value.find? (.text (column ++ side.ending)) c).getD .null

/-- The criteria with the pair of a column's bounds in the place of the first of them. -/
def withPair (column : String) (c : Criteria) : Criteria :=
  replaceBounds column (.pair (boundUnder c column .low) (boundUnder c column .high)) c

/-- What has been gathered, with a column given whole. -/
def joined (column : String) (v : Value) (done : Entries Mention) : Entries Mention :=
  done.map fun e => if e.1 = column then (column, ⟨.text column, .whole v⟩) else e

/-- A key is the name of a bound exactly when it is made of the column and an ending. -/
theorem isBoundKey_iff :
    isBoundKey column key = true ↔ ∃ side : Side, key.text? = some (column ++ side.ending) := by
  rw [isBoundKey, Bool.or_eq_true, beq_iff_eq, beq_iff_eq]
  constructor
  · rintro (h | h)
    · exact ⟨.low, h⟩
    · exact ⟨.high, h⟩
  · rintro ⟨side, h⟩
    cases side with
    | low => exact .inl h
    | high => exact .inr h

/-- A key that is neither a column's own name nor the name of a bound of it mentions another
column. -/
theorem columnOf_ne (hwhole : key.text? ≠ some column) (hbound : isBoundKey column key = false)
    (hkey : key.text? = some name) : columnOf (splitAmong? isRange) name ≠ column := by
  cases hsplit : splitAmong? isRange name with
  | none =>
    rw [columnOf_of_whole hsplit]
    rintro rfl
    exact hwhole hkey
  | some bound =>
    obtain ⟨base, side⟩ := bound
    rw [columnOf_of_bound hsplit]
    rintro rfl
    obtain ⟨-, -, rfl⟩ := splitAmong?_eq_some_iff.1 hsplit
    rw [isBoundKey_iff.2 ⟨side, hkey⟩] at hbound
    cases hbound

section Joined

/-- Joining goes entry by entry. -/
theorem joined_cons (column : String) (v : Value) (name : String) (m : Mention)
    (done : Entries Mention) :
    joined column v ((name, m) :: done) =
      (if name = column then (column, ⟨.text column, .whole v⟩) else (name, m)) ::
        joined column v done := rfl

/-- What is not mentioned is not joined. -/
theorem joined_of_not_mem (h : column ∉ done.names) : joined column v done = done := by
  unfold joined
  refine (List.map_congr_left fun e he => ?_).trans (List.map_id done)
  rw [if_neg]
  · rfl
  · rintro rfl
    exact h (List.mem_map_of_mem he)

/-- A mention of another column is joined as it is. -/
theorem joined_put_of_ne (h : name ≠ column) (m : Mention) (done : Entries Mention) :
    joined column v (done.put name m) = (joined column v done).put name m := by
  induction done with
  | nil => rw [Entries.put, joined_cons, if_neg h]; rfl
  | cons e done ih =>
    obtain ⟨n, old⟩ := e
    rw [Entries.put, joined_cons]
    by_cases hn : n = name
    · rw [if_pos hn, joined_cons, if_neg (hn ▸ h), if_neg (hn ▸ h), Entries.put, if_pos hn]
    · rw [if_neg hn, joined_cons, ih]
      by_cases hc : n = column
      · rw [if_pos hc, Entries.put, if_neg (Ne.symm h)]
      · rw [if_neg hc, Entries.put, if_neg hn]

/-- Whatever is put for the column that is joined, it is given whole. -/
theorem joined_put_self (m : Mention) (done : Entries Mention) :
    joined column v (done.put column m) =
      (joined column v done).put column ⟨.text column, .whole v⟩ := by
  induction done with
  | nil => rw [Entries.put, joined_cons, if_pos rfl]; rfl
  | cons e done ih =>
    obtain ⟨n, old⟩ := e
    rw [Entries.put, joined_cons]
    by_cases hn : n = column
    · rw [if_pos hn, joined_cons, if_pos hn, if_pos hn, Entries.put, if_pos rfl]
    · rw [if_neg hn, joined_cons, ih, if_neg hn, Entries.put, if_neg hn]

/-- What is joined stays so when it is put again. -/
theorem put_joined (h : column ∈ done.names) :
    (joined column v done).put column ⟨.text column, .whole v⟩ = joined column v done := by
  induction done with
  | nil => cases h
  | cons e done ih =>
    obtain ⟨n, old⟩ := e
    rw [joined_cons]
    by_cases hn : n = column
    · rw [if_pos hn, Entries.put, if_pos rfl]
    · have hrest : column ∈ Entries.names done := by
        rcases List.mem_cons.1 h with h | h
        · exact absurd h.symm hn
        · exact h
      rw [if_neg hn, Entries.put, if_neg hn, ih hrest]

/-- What is given for other columns is not joined. -/
theorem givenSoFar?_joined (h : name ≠ column) (v : Value) (done : Entries Mention) :
    givenSoFar? (joined column v done) name = givenSoFar? done name := by
  unfold givenSoFar?
  induction done with
  | nil => rfl
  | cons e done ih =>
    obtain ⟨n, m⟩ := e
    rw [joined_cons]
    by_cases hn : n = column
    · rw [if_pos hn, Entries.get?, if_neg (Ne.symm h), Entries.get?, if_neg (hn ▸ Ne.symm h), ih]
    · rw [if_neg hn, Entries.get?, Entries.get?]
      by_cases hname : n = name
      · rw [if_pos hname, if_pos hname]
      · rw [if_neg hname, if_neg hname, ih]

end Joined

section Steps

/-- A criterion that does not mention the joined column is gathered as if it were not joined. -/
theorem gather_joined (hwhole : key.text? ≠ some column) (hbound : isBoundKey column key = false)
    (v : Value) (done : Entries Mention) :
    gather isRange (joined column v done) key w =
      (gather isRange done key w).map (joined column v) := by
  cases hkey : key.text? with
  | none =>
    obtain ⟨m, hm⟩ := exists_nameOf_error hkey
    rw [gather_of_noName hm, gather_of_noName hm]
    rfl
  | some name =>
    have hne : columnOf (splitAmong? isRange) name ≠ column := columnOf_ne hwhole hbound hkey
    rw [gather_of_name hkey, gather_of_name hkey, givenSoFar?_joined hne]
    cases merged? isRange name w (givenSoFar? done (columnOf (splitAmong? isRange) name)) with
    | none => rfl
    | some g =>
      simp only [Except.map]
      rw [joined_put_of_ne hne]

/-- A bound of a column that is not given whole is put among its bounds. -/
theorem exists_gather_of_bound (hne : column ≠ "") (hr : isRange column = true)
    (hkey : isBoundKey column key = true)
    (hdone : ∀ w, givenSoFar? done column ≠ some (.whole w)) :
    ∃ low high, gather isRange done key w =
      .ok (done.put column ⟨.text column, .bounds low high⟩) := by
  obtain ⟨side, hkey⟩ := isBoundKey_iff.1 hkey
  have hsplit : splitAmong? isRange (column ++ side.ending) = some (column, side) :=
    splitAmong?_eq_some_iff.2 ⟨hne, hr, rfl⟩
  obtain ⟨low, high, hbefore⟩ :
      ∃ low high, (givenSoFar? done column).getD (.bounds .null .null) = .bounds low high := by
    cases hsofar : givenSoFar? done column with
    | none => exact ⟨_, _, rfl⟩
    | some g => cases g with
      | whole u => exact absurd hsofar (hdone u)
      | bounds low high => exact ⟨low, high, rfl⟩
  have hmerged : merged? isRange (column ++ side.ending) w (givenSoFar? done column) =
      some (.withBound low high side w) :=
    (merged?_of_bound hsplit).2 ⟨low, high, hbefore, rfl⟩
  rw [gather_of_name hkey, columnOf_of_bound hsplit, hmerged, writtenBy, hsplit]
  cases side with
  | low => exact ⟨w, high, rfl⟩
  | high => exact ⟨low, w, rfl⟩

end Steps

section Runs

variable (hne : column ≠ "") (hr : isRange column = true)
  (hwhole : ∀ e ∈ c, e.1.text? ≠ some column)

include hne hr hwhole

/-- Once a column is given by bounds, further bounds are gathered to the same as none where the
column is joined. -/
theorem gatherAll_filter (v : Value) {low high : Value}
    (hdone : givenSoFar? done column = some (.bounds low high)) :
    gatherAll isRange (joined column v done) (c.filter fun e => !isBoundKey column e.1) =
      (gatherAll isRange done c).map (joined column v) := by
  -- The column stays among those that are given by bounds, though the bounds themselves change.
  induction c generalizing done low high with
  | nil => rfl
  | cons e c ih =>
    obtain ⟨key, w⟩ := e
    obtain ⟨hkey, hrest⟩ := List.forall_mem_cons.1 hwhole
    rw [gatherAll]
    cases hbound : isBoundKey column key with
    | true =>
      have hother : ∀ u, givenSoFar? done column ≠ some (.whole u) := by simp [hdone]
      obtain ⟨low', high', hgather⟩ := exists_gather_of_bound (w := w) hne hr hbound hother
      have hmem : column ∈ done.names := by
        rw [← Entries.get?_isSome_iff]
        simpa [givenSoFar?] using congrArg Option.isSome hdone
      have hput : givenSoFar? (done.put column ⟨.text column, .bounds low' high'⟩) column =
          some (.bounds low' high') := by rw [givenSoFar?_put, if_pos rfl]
      -- On the left the bound is left out, and on the right it changes only what is joined.
      rw [List.filter_cons_of_neg (by simp [hbound]), hgather, Except.bind, ← ih hrest hput,
        joined_put_self, put_joined hmem]
    | false =>
      rw [List.filter_cons_of_pos (by simp [hbound]), gatherAll, gather_joined hkey hbound]
      cases hnext : gather isRange done key w with
      | error o => rfl
      | ok next =>
        obtain ⟨name, g, hname, -, rfl⟩ := gather_eq_ok_iff.1 hnext
        have hbefore : givenSoFar? (done.put (columnOf (splitAmong? isRange) name)
            ⟨writtenBy isRange name key, g⟩) column = some (.bounds low high) := by
          rw [givenSoFar?_put, if_neg (Ne.symm (columnOf_ne hkey hbound hname)), hdone]
        exact ih hrest hbefore

/-- Criteria with a value in the place of a column's bounds are gathered to the same, with the
column given whole. -/
theorem gatherAll_replaceBounds (hfree : splitAmong? isRange column = none) (v : Value)
    (hdone : column ∉ done.names) :
    gatherAll isRange done (replaceBounds column v c) =
      (gatherAll isRange done c).map (joined column v) := by
  induction c generalizing done with
  | nil =>
    rw [replaceBounds, gatherAll, Except.map, joined_of_not_mem hdone]
  | cons e c ih =>
    obtain ⟨key, w⟩ := e
    obtain ⟨hkey, hrest⟩ := List.forall_mem_cons.1 hwhole
    have hnone : givenSoFar? done column = none := by
      rw [givenSoFar?, Entries.get?_eq_none_iff.2 hdone, Option.map_none]
    rw [replaceBounds, gatherAll]
    cases hbound : isBoundKey column key with
    | true =>
      have hother : ∀ u, givenSoFar? done column ≠ some (.whole u) := by simp [hnone]
      obtain ⟨low, high, hgather⟩ := exists_gather_of_bound (w := w) hne hr hbound hother
      have hput : givenSoFar? (done.put column ⟨.text column, .bounds low high⟩) column =
          some (.bounds low high) := by rw [givenSoFar?_put, if_pos rfl]
      have hmerged : merged? isRange column v none = some (.whole v) :=
        (merged?_of_whole hfree).2 ⟨by simp, rfl⟩
      have hpair : gather isRange done (.text column) v =
          .ok (joined column v (done.put column ⟨.text column, .bounds low high⟩)) := by
        rw [gather_of_name rfl, columnOf_of_whole hfree, hnone, hmerged, writtenBy, hfree,
          joined_put_self, joined_of_not_mem hdone]
        rfl
      -- The pair comes in the place of this bound, and the later ones are left out.
      rw [if_pos rfl, hgather, Except.bind, gatherAll, hpair, Except.bind,
        gatherAll_filter hne hr hrest v hput]
    | false =>
      have hsame : gather isRange done key w =
          (gather isRange done key w).map (joined column v) := by
        conv_lhs => rw [← joined_of_not_mem (v := v) hdone]
        exact gather_joined hkey hbound v done
      rw [if_neg (by simp), gatherAll]
      cases hnext : gather isRange done key w with
      | error o => rfl
      | ok next =>
        obtain ⟨name, g, hname, -, rfl⟩ := gather_eq_ok_iff.1 hnext
        refine ih hrest ?_
        have hother : columnOf (splitAmong? isRange) name ≠ column := columnOf_ne hkey hbound hname
        rw [Entries.mem_names_put, not_or]
        exact ⟨hdone, Ne.symm hother⟩

end Runs

section Look

/-- Under a name that is neither the column's nor that of a bound of it, the same is found among
criteria without its bounds. -/
theorem find?_filter {text : String} (hbounds : ∀ side : Side, text ≠ column ++ side.ending)
    (c : Criteria) :
    Value.find? (.text text) (c.filter fun e => !isBoundKey column e.1) =
      Value.find? (.text text) c := by
  induction c with
  | nil => rfl
  | cons e c ih =>
    obtain ⟨key, w⟩ := e
    cases hbound : isBoundKey column key with
    | true =>
      obtain ⟨side, hkey⟩ := isBoundKey_iff.1 hbound
      have hother : ¬key.same (.text text) = true := fun hsame =>
        hbounds side (Option.some.inj ((same_text_right_iff.1 hsame).symm.trans hkey))
      rw [List.filter_cons_of_neg (by simp [hbound]), ih, Value.find?, if_neg hother]
    | false =>
      rw [List.filter_cons_of_pos (by simp [hbound]), Value.find?, Value.find?, ih]

/-- Under such a name the same is found when the bounds are replaced. -/
theorem find?_replaceBounds {text : String} (hcolumn : text ≠ column)
    (hbounds : ∀ side : Side, text ≠ column ++ side.ending) (v : Value) (c : Criteria) :
    Value.find? (.text text) (replaceBounds column v c) = Value.find? (.text text) c := by
  induction c with
  | nil => rfl
  | cons e c ih =>
    obtain ⟨key, w⟩ := e
    rw [replaceBounds]
    cases hbound : isBoundKey column key with
    | true =>
      obtain ⟨side, hkey⟩ := isBoundKey_iff.1 hbound
      have hkeep : ¬key.same (.text text) = true := fun hsame =>
        hbounds side (Option.some.inj ((same_text_right_iff.1 hsame).symm.trans hkey))
      have hnew : ¬(Value.text column).same (.text text) = true := fun hsame =>
        hcolumn (Option.some.inj (same_text_right_iff.1 hsame)).symm
      rw [if_pos rfl, Value.find?, if_neg hnew, find?_filter hbounds, Value.find?, if_neg hkeep]
    | false => rw [if_neg (by simp), Value.find?, Value.find?, ih]

end Look

/-- What is found for a column without a whole value is the pair of its bounds. -/
theorem pair_of_gatherAll (hc : c.HasDistinctKeys) (hne : column ≠ "") (hr : isRange column = true)
    (hwhole : ∀ e ∈ c, e.1.text? ≠ some column) (h : gatherAll isRange [] c = .ok es)
    {m : Mention} (hm : es.get? column = some m) :
    m.written = .text column ∧
      m.given.value = .pair (boundUnder c column .low) (boundUnder c column .high) := by
  have hside (side : Side) : sideSoFar es column side = boundUnder c column side := by
    rw [sideSoFar_of_gatherAll hne hr hc h]
    cases side <;> rfl
  cases comesFrom_of_gatherAll h hm with
  | whole hmem hkey _ => exact absurd hkey (hwhole _ hmem)
  | bounds low high =>
    rw [← hside, ← hside, sideSoFar, sideSoFar, givenSoFar?, hm]
    exact ⟨rfl, rfl⟩

end Criteria

namespace Schema

variable {s : Schema} {column : String} {c : Criteria}

/-- The clauses of a column depend on how it is written and on what is given as one value. -/
theorem clausesOf_congr (s : Schema) (column : String) {m n : Mention} (hw : m.written = n.written)
    (hv : m.given.value = n.given.value) : s.clausesOf column m = s.clausesOf column n := by
  unfold clausesOf
  rw [hw, hv]

/-- A column that is joined with what is given for it is declared if it was. -/
theorem checkDeclared_joined {v : Value} {es : Entries Mention}
    (h : ∀ e ∈ es, e.1 = column → e.2.written = .text column) :
    s.checkDeclared (Criteria.joined column v es) = s.checkDeclared es := by
  induction es with
  | nil => rfl
  | cons e es ih =>
    obtain ⟨n, m⟩ := e
    obtain ⟨hfirst, hrest⟩ := List.forall_mem_cons.1 h
    rw [Criteria.joined_cons]
    by_cases hn : n = column
    · rw [if_pos hn, checkDeclared, checkDeclared, ih hrest, hfirst hn, hn]
    · rw [if_neg hn, checkDeclared, checkDeclared, ih hrest]

/-- A column that is joined with what is given for it comes to the same clauses. -/
theorem groups_joined {v : Value} {es : Entries Mention}
    (h : ∀ e ∈ es, e.1 = column → e.2.written = .text column ∧ e.2.given.value = v) :
    s.groups (Criteria.joined column v es) = s.groups es := by
  induction es with
  | nil => rfl
  | cons e es ih =>
    obtain ⟨n, m⟩ := e
    obtain ⟨hfirst, hrest⟩ := List.forall_mem_cons.1 h
    rw [Criteria.joined_cons]
    by_cases hn : n = column
    · obtain ⟨hw, hv⟩ := hfirst hn
      have hsame : s.clausesOf column ⟨.text column, .whole v⟩ = s.clausesOf column m :=
        s.clausesOf_congr column hw.symm hv.symm
      rw [if_pos hn, groups, groups, ih hrest, hsame, hn]
    · rw [if_neg hn, groups, groups, ih hrest]

/-- Criteria with a pair in the place of its bounds are refused for the same obstacles, with the
same values. -/
theorem failureOf_withPair (hfree : Criteria.splitAmong? s.ranges.contains column = none)
    (hne : column ≠ "") (hr : s.ranges.contains column = true)
    (hwhole : ∀ e ∈ c, e.1.text? ≠ some column) {o : Criteria.Obstacle}
    (h : Criteria.gatherAll s.ranges.contains [] c = .error o) :
    Criteria.failureOf s.ranges (c.withPair column) o = Criteria.failureOf s.ranges c o := by
  cases o with
  | noName m => rfl
  | conflict w =>
    obtain ⟨other, hw, hother, e, he, hkey⟩ :=
      Criteria.exists_of_conflict (List.Subset.refl c) (by simp [Entries.get?]) h
    have hcolumn : other ≠ column := by
      rintro rfl
      exact hwhole e he hkey
    have hbounds (side : Side) : other ≠ column ++ side.ending := by
      rintro rfl
      rw [Criteria.splitAmong?_eq_some_iff.2 ⟨hne, hr, rfl⟩] at hother
      cases hother
    have hsame : Value.same (.text other) w = true := Value.same_text_iff.2 hw
    have hfind : Value.find? w (c.withPair column) = Value.find? w c := by
      rw [← Value.find?_congr hsame, ← Value.find?_congr hsame, Criteria.withPair,
        Criteria.find?_replaceBounds hcolumn hbounds]
    simp only [Criteria.failureOf, Criteria.conflict, hfind]

/-- Giving a range column the pair of its bounds in the place of the first of them changes nothing
of what compiling comes to, if the column's own name is not the name of a bound. -/
theorem compile_withPair (additional : Value) (hc : c.HasDistinctKeys) (hne : column ≠ "")
    (hr : s.ranges.contains column = true)
    (hfree : ∀ (base : String) (side : Side), base ≠ "" → s.ranges.contains base = true →
      column ≠ base ++ side.ending)
    (hwhole : ∀ e ∈ c, e.1.text? ≠ some column) :
    s.compile (c.withPair column) additional = s.compile c additional := by
  have hfree' : Criteria.splitAmong? s.ranges.contains column = none := by
    rw [Option.eq_none_iff_forall_ne_some]
    rintro ⟨base, side⟩ hsplit
    obtain ⟨hbase, hrange, hname⟩ := Criteria.splitAmong?_eq_some_iff.1 hsplit
    exact hfree base side hbase hrange hname
  have hgather : Criteria.gatherAll s.ranges.contains [] (c.withPair column) =
      (Criteria.gatherAll s.ranges.contains [] c).map (Criteria.joined column
        (.pair (c.boundUnder column .low) (c.boundUnder column .high))) :=
    Criteria.gatherAll_replaceBounds hne hr hwhole hfree' _ (by simp [Entries.names])
  have hgroups : s.criteriaGroups (c.withPair column) = s.criteriaGroups c := by
    unfold criteriaGroups Criteria.fold
    simp only [Option.getD_some]
    rw [hgather]
    cases h : Criteria.gatherAll s.ranges.contains [] c with
    | error o =>
      have hfailure := failureOf_withPair hfree' hne hr hwhole h
      simp only [Except.map, mapError_error, bind, Except.bind, hfailure]
    | ok es =>
      have hpair : ∀ e ∈ es, e.1 = column → e.2.written = .text column ∧
          e.2.given.value = .pair (c.boundUnder column .low) (c.boundUnder column .high) := by
        rintro ⟨n, m⟩ he rfl
        have hnodup : es.names.Nodup :=
          Criteria.nodup_names_of_gatherAll (by simp [Entries.names]) h
        exact Criteria.pair_of_gatherAll hc hne hr hwhole h (Entries.get?_of_mem hnodup he)
      simp only [Except.map, mapError_ok, bind, Except.bind]
      rw [checkDeclared_joined fun e he hn => (hpair e he hn).1, groups_joined hpair]
  unfold compile
  rw [hgroups]

/-- A schema in which a range column bears the name of another's lower bound. -/
def seasons : Schema :=
  ⟨"Season", [("opened", .closedRange), ("opened_from", .openRange), ("title", .matchPartial)], [],
    .null, [("opened", .text "s.opened_on")], .text "find_all"⟩

/-- Criteria in which the bounds of a column come apart, the upper one first. -/
def seasonCriteria : Criteria :=
  .ofEntries [("title", .text "Ice"), ("opened_to", .int 9), ("opened_from_to", .int 4),
    ("opened_from", .text " ")]

/-- The pair goes to the place of the upper bound, and a blank bound stays in it as it is. -/
theorem seasons_compile_withPair :
    seasonCriteria.HasDistinctKeys ∧ "opened" ≠ "" ∧ seasons.ranges.contains "opened" = true ∧
      (∀ (base : String) (side : Side), base ≠ "" → seasons.ranges.contains base = true →
        "opened" ≠ base ++ side.ending) ∧
      (∀ e ∈ seasonCriteria, e.1.text? ≠ some "opened") ∧
      seasonCriteria.withPair "opened" =
        .ofEntries [("title", .text "Ice"), ("opened", .list [.text " ", .int 9]),
          ("opened_from_to", .int 4)] ∧
      seasons.compile (seasonCriteria.withPair "opened") (.text "a = b") =
        seasons.compile seasonCriteria (.text "a = b") ∧
      seasons.compile seasonCriteria (.text "a = b") =
        .ok ⟨"((title) LIKE ?) AND (? <= (s.opened_on)) AND ((s.opened_on) <= ?) AND " ++
            "((opened_from) <= ?) AND (a = b)",
          [.text "%Ice%", .int 9, .int 9, .int 4]⟩ := by
  have hc : seasonCriteria.HasDistinctKeys := Criteria.hasDistinctKeys_ofEntries.2 (by decide)
  have hr : seasons.ranges.contains "opened" = true := by decide
  have hfree : ∀ (base : String) (side : Side), base ≠ "" →
      seasons.ranges.contains base = true → "opened" ≠ base ++ side.ending := by
    intro base side _ _ h
    have hlast := congrArg (fun text : String => text.toList.getLast?) h
    cases side <;> simp [Side.ending, lowEnding, highEnding] at hlast
  have hwhole : ∀ e ∈ seasonCriteria, e.1.text? ≠ some "opened" := by decide
  have hlow : seasonCriteria.boundUnder "opened" .low = .text " " := by
    rw [Criteria.boundUnder, seasonCriteria, Criteria.find?_ofEntries]
    rfl
  have hhigh : seasonCriteria.boundUnder "opened" .high = .int 9 := by
    rw [Criteria.boundUnder, seasonCriteria, Criteria.find?_ofEntries]
    rfl
  have hpair : seasonCriteria.withPair "opened" =
      .ofEntries [("title", .text "Ice"), ("opened", .list [.text " ", .int 9]),
        ("opened_from_to", .int 4)] := by
    rw [Criteria.withPair, hlow, hhigh]
    rfl
  exact ⟨hc, by decide, hr, hfree, hwhole, hpair,
    compile_withPair (.text "a = b") hc (by decide) hr hfree hwhole, by rfl⟩

end Schema

end Searchable
