import Searchable.Proofs.Condition.Nesting
import Searchable.Proofs.Schema.Phases
import Searchable.Proofs.Schema.Spaced

/-!
# Criteria of one shape

Two criteria are alike for a schema if they have the same keys and, key by key, values of one shape:
both are blank or neither is, and what a range takes apart is blank on the same sides
(`Schema.CriteriaAlike`). Compiling such criteria goes the same way step by step. What is gathered
of them is alike (`Criteria.gather_together`), each column comes to clauses of the same texts or
fails for both (`Schema.clausesOf_together`), and so the two conditions have the same number of
parameters, and one always holds if the other does (`Schema.compile_together`).
-/

namespace Searchable

/-- Whether two pairs are blank on the same sides. -/
def SidesAlike (p q : Value × Value) : Prop :=
  p.1.isBlank = q.1.isBlank ∧ p.2.isBlank = q.2.isBlank

/-- Whether a strategy makes no difference between the shapes of two values that are both blank or
both not blank. -/
structure Strategy.Alike (s : Strategy) (v w : Value) : Prop where
  /-- For a range both are pairs that are blank on the same sides, or neither is a pair. -/
  bounds : s.isRange = true → Option.Rel SidesAlike v.bounds? w.bounds?
  /-- For a partial match both have a text or neither has. -/
  written : s = .matchPartial → v.written.isOk = w.written.isOk

/-- Whether two values under one key are alike for a schema. -/
structure Schema.AlikeUnder (s : Schema) (key v w : Value) : Prop where
  /-- Both are blank or neither is. -/
  blank : v.isBlank = w.isBlank
  /-- Where they are given for a column as a whole, its strategy makes no difference. -/
  whole : ∀ column strategy, key.text? = some column →
    Criteria.splitAmong? s.ranges.contains column = none →
    s.strategies.get? column = some strategy → strategy.Alike v w

/-- Whether two values stand for the same criteria, or for ones with the same keys and with values
that are alike under each. -/
def Schema.CriteriaAlike (s : Schema) (v w : Value) : Prop :=
  v = w ∨ ∃ es fs, v = .map es ∧ w = .map fs ∧
    List.Forall₂ (fun e f => e.1 = f.1 ∧ s.AlikeUnder e.1 e.2 f.2) es fs

/-- Whether two further conditions are the same, or both texts with as many parameters, of which
both are empty or neither is. -/
def FurtherAlike (v w : Value) : Prop :=
  v = w ∨ ∃ a b ps qs, v.sequence? = some (.text a :: ps) ∧ w.sequence? = some (.text b :: qs) ∧
    (a = "" ↔ b = "") ∧ ps.length = qs.length

/-- Whether what is given for a column is alike, as a whole or bound by bound. -/
inductive Given.Alike (strategy? : Option Strategy) : Given → Given → Prop where
  /-- As a whole. -/
  | whole {v w : Value} (hblank : v.isBlank = w.isBlank)
      (h : ∀ strategy, strategy? = some strategy → strategy.Alike v w) :
      Alike strategy? (.whole v) (.whole w)
  /-- Bound by bound, where the column is a range. -/
  | bounds {low high low' high' : Value} (hlow : low.isBlank = low'.isBlank)
      (hhigh : high.isBlank = high'.isBlank)
      (hrange : ∀ strategy, strategy? = some strategy → strategy.isRange = true) :
      Alike strategy? (.bounds low high) (.bounds low' high')

/-- Whether two mentions of a column are written the same and give something alike. -/
structure Schema.MentionAlike (s : Schema) (column : String) (m n : Mention) : Prop where
  /-- The column is written the same. -/
  written : m.written = n.written
  /-- What is given for it is alike. -/
  given : m.given.Alike (s.strategies.get? column) n.given

/-- Whether two gatherings of criteria are alike column by column. -/
def Schema.GatheredAlike (s : Schema) (es fs : Entries Mention) : Prop :=
  List.Forall₂ (fun e f => e.1 = f.1 ∧ s.MentionAlike e.1 e.2 f.2) es fs

section Reflexivity

/-- A pair is alike itself. -/
theorem SidesAlike.refl (p : Value × Value) : SidesAlike p p :=
  ⟨rfl, rfl⟩

/-- A value is alike itself for every strategy. -/
theorem Strategy.Alike.refl (s : Strategy) (v : Value) : s.Alike v v where
  bounds _ := by
    cases v.bounds? with
    | none => exact .none
    | some p => exact .some (.refl p)
  written _ := rfl

/-- A value is alike itself under every key. -/
theorem Schema.AlikeUnder.refl (s : Schema) (key v : Value) : s.AlikeUnder key v v where
  blank := rfl
  whole _ strategy _ _ _ := .refl strategy v

end Reflexivity

/-- What is given is alike as one value, since bounds are one as a pair. -/
theorem Given.Alike.value {strategy? : Option Strategy} {g h : Given}
    (halike : g.Alike strategy? h) :
    g.value.isBlank = h.value.isBlank ∧
      ∀ strategy, strategy? = some strategy → strategy.Alike g.value h.value := by
  cases halike with
  | whole hblank h => exact ⟨hblank, h⟩
  | bounds hlow hhigh hrange =>
    refine ⟨rfl, fun strategy hs => ⟨fun _ => .some ⟨hlow, hhigh⟩, ?_⟩⟩
    rintro rfl
    cases hrange _ hs

namespace Criteria

variable {s : Schema} {done done' : Entries Mention}

/-- What is given for a column so far is alike in gatherings that are. -/
theorem givenSoFar?_alike (h : s.GatheredAlike done done') (column : String) :
    Option.Rel (Given.Alike (s.strategies.get? column)) (givenSoFar? done column)
      (givenSoFar? done' column) := by
  have hget := Entries.rel_get?_of_forall₂ h column
  unfold givenSoFar?
  generalize done.get? column = m? at hget
  generalize done'.get? column = n? at hget
  cases hget with
  | none => exact .none
  | some hmention => exact .some hmention.given

/-- Gatherings stay alike where what is put is alike. -/
theorem put_alike (h : s.GatheredAlike done done') {column : String} {written : Value}
    {g g' : Given} (hg : g.Alike (s.strategies.get? column) g') :
    s.GatheredAlike (done.put column ⟨written, g⟩) (done'.put column ⟨written, g'⟩) :=
  Entries.forall₂_put h ⟨rfl, hg⟩

/-- A bound is set alike in bounds that are alike. -/
theorem withBound_alike {strategy? : Option Strategy} {low high low' high' v w : Value}
    (side : Side) (hlow : low.isBlank = low'.isBlank) (hhigh : high.isBlank = high'.isBlank)
    (hblank : v.isBlank = w.isBlank)
    (hrange : ∀ strategy, strategy? = some strategy → strategy.isRange = true) :
    (Given.withBound low high side v).Alike strategy? (Given.withBound low' high' side w) := by
  cases side with
  | low => exact .bounds hblank hhigh hrange
  | high => exact .bounds hlow hblank hrange

/-- What is given for a column after one more value under a name is alike if the values are. -/
theorem merged?_alike (hd : s.strategies.names.Nodup) {name : String} {v w : Value}
    {g? h? : Option Given} (hv : s.AlikeUnder (.text name) v w)
    (h : Option.Rel (Given.Alike (s.strategies.get?
      (columnOf (splitAmong? s.ranges.contains) name))) g? h?) :
    Option.Rel (Given.Alike (s.strategies.get? (columnOf (splitAmong? s.ranges.contains) name)))
      (merged? s.ranges.contains name v g?) (merged? s.ranges.contains name w h?) := by
  unfold merged?
  -- Whether the name is a column's or a bound's does not depend on what is under it.
  cases hsplit : splitAmong? s.ranges.contains name with
  | none =>
    rw [columnOf_of_whole hsplit] at h ⊢
    have hwhole : Given.Alike (s.strategies.get? name) (.whole v) (.whole w) :=
      .whole hv.blank fun strategy => hv.whole name strategy rfl hsplit
    cases h with
    | none => exact .some hwhole
    | some hg => cases hg with
      | whole _ _ => exact .some hwhole
      -- The column is in conflict, whatever the bounds and the value are.
      | bounds _ _ _ => exact .none
  | some p =>
    obtain ⟨base, side⟩ := p
    rw [columnOf_of_bound hsplit] at h ⊢
    have hrange (strategy : Strategy) (hs : s.strategies.get? base = some strategy) :
        strategy.isRange = true :=
      Schema.isRange_of_ranges hd (splitAmong?_eq_some_iff.1 hsplit).2.1 hs
    cases h with
    | none => exact .some (withBound_alike side rfl rfl hv.blank hrange)
    | some hg => cases hg with
      | whole _ _ => exact .none
      | bounds hlow hhigh _ => exact .some (withBound_alike side hlow hhigh hv.blank hrange)

/-- Gathering goes the same way for values that are alike. -/
theorem gather_together (hd : s.strategies.names.Nodup) (h : s.GatheredAlike done done')
    {key v w : Value} (hv : s.AlikeUnder key v w) :
    Together s.GatheredAlike (gather s.ranges.contains done key v)
      (gather s.ranges.contains done' key w) := by
  cases hkey : key.text? with
  | none =>
    obtain ⟨m, hm⟩ := exists_nameOf_error hkey
    rw [gather_of_noName hm, gather_of_noName hm]
    exact .failed _ _
  | some name =>
    have hname : s.AlikeUnder (.text name) v w :=
      ⟨hv.blank, fun column strategy hcolumn => hv.whole column strategy (hkey.trans hcolumn)⟩
    have hmerged := merged?_alike hd hname
      (givenSoFar?_alike h (columnOf (splitAmong? s.ranges.contains) name))
    rw [gather_of_name hkey, gather_of_name hkey]
    generalize merged? s.ranges.contains name v (givenSoFar? done _) = g? at hmerged
    generalize merged? s.ranges.contains name w (givenSoFar? done' _) = h? at hmerged
    cases hmerged with
    | none => exact .failed _ _
    | some hg => exact .done (put_alike h hg)

/-- Gathering goes the same way for criteria that are alike. -/
theorem gatherAll_together (hd : s.strategies.names.Nodup) {es fs : Criteria}
    (hes : List.Forall₂ (fun e f => e.1 = f.1 ∧ s.AlikeUnder e.1 e.2 f.2) es fs)
    (h : s.GatheredAlike done done') :
    Together s.GatheredAlike (gatherAll s.ranges.contains done es)
      (gatherAll s.ranges.contains done' fs) := by
  induction hes generalizing done done' with
  | nil => exact .done h
  | @cons e f es fs hef _ ih =>
    obtain ⟨key, v⟩ := e
    obtain ⟨other, w⟩ := f
    obtain ⟨rfl, hv⟩ : key = other ∧ s.AlikeUnder key v w := hef
    exact (gather_together hd h hv).bind fun _ _ hnext => ih hnext

/-- What two alike criteria give for each column is alike. -/
theorem fold_together (hd : s.strategies.names.Nodup) {es fs : Criteria}
    (hes : List.Forall₂ (fun e f => e.1 = f.1 ∧ s.AlikeUnder e.1 e.2 f.2) es fs) :
    Together s.GatheredAlike (fold (some s.ranges) es) (fold (some s.ranges) fs) :=
  (gatherAll_together hd hes .nil).mapError

end Criteria

section Clauses

variable {target : String} {v w low high low' high' : Value}

/-- Whether two lists of clauses have the same texts. -/
def TextsAlike (cs ds : List Clause) : Prop :=
  cs.map Clause.text = ds.map Clause.text

/-- A clause with as many parameters has the same text, or cannot be made either. -/
theorem clause_together {text : String} {ps qs : List Value} (hlength : ps.length = qs.length) :
    Together (fun c d => c.text = d.text) (clause text ps) (clause text qs) := by
  unfold clause Clause.make
  by_cases h : placeholders text = ps.length
  · rw [dif_pos h, dif_pos (h.trans hlength)]
    exact .done rfl
  · rw [dif_neg h, dif_neg (hlength ▸ h)]
    exact .failed _ _

/-- The clauses for lower bounds of a target have the same text. -/
theorem lowClause_together :
    Together (fun c d => c.text = d.text) (lowClause target v) (lowClause target w) :=
  clause_together rfl

/-- The clauses for upper bounds of a target have the same text. -/
theorem highClause_together :
    Together (fun c d => c.text = d.text) (highClause target v) (highClause target w) :=
  clause_together rfl

/-- Single clauses of the same text are lists of the same texts. -/
theorem single_together {o p : Except Failure Clause}
    (h : Together (fun c d => c.text = d.text) o p) :
    Together TextsAlike (o.map ([·])) (p.map ([·])) :=
  h.map fun _ _ htext => congrArg ([·]) htext

namespace Strategy

/-- Bounds that are blank on the same sides come to the same texts in a closed range. -/
theorem closedClauses_together (hlow : low.isBlank = low'.isBlank)
    (hhigh : high.isBlank = high'.isBlank) :
    Together TextsAlike (closedClauses target low high) (closedClauses target low' high') := by
  unfold closedClauses
  rw [hlow, hhigh]
  split
  · exact .done rfl
  · refine lowClause_together.bind fun lower lower' hlower => ?_
    refine highClause_together.bind fun upper upper' hupper => .done ?_
    exact congrArg₂ (fun one other => [one, other]) hlower hupper

/-- The clause for a bound has the same text for both, or there is none for either. -/
theorem bound_together (blank : Bool) {o p : Except Failure Clause}
    (h : Together (fun c d => c.text = d.text) o p) :
    Together TextsAlike (if blank then .ok [] else o.map ([·]))
      (if blank then .ok [] else p.map ([·])) := by
  cases blank with
  | true => exact .done rfl
  | false => exact single_together h

/-- Bounds that are blank on the same sides come to the same texts in an open range. -/
theorem openClauses_together (hlow : low.isBlank = low'.isBlank)
    (hhigh : high.isBlank = high'.isBlank) :
    Together TextsAlike (openClauses target low high) (openClauses target low' high') := by
  rw [openClauses_eq, openClauses_eq, hlow, hhigh]
  refine (bound_together _ lowClause_together).bind fun lower lower' hlower => ?_
  refine (bound_together _ highClause_together).bind fun upper upper' hupper => .done ?_
  rw [TextsAlike, List.map_append, List.map_append, hlower, hupper]

/-- Bounds are found for both values, alike, or for neither. -/
theorem boundsOf_together {s : Strategy} {column : Value} (h : s.Alike v w)
    (hrange : s.isRange = true) :
    Together SidesAlike (s.boundsOf column v) (s.boundsOf column w) := by
  have hbounds := h.bounds hrange
  unfold boundsOf
  generalize v.bounds? = p? at hbounds
  generalize w.bounds? = q? at hbounds
  cases hbounds with
  | none => exact .failed _ _
  | some hsides => exact .done hsides

/-- Values between which a strategy makes no difference come to clauses of the same texts. -/
theorem clauses_together {s : Strategy} {column : Value} (h : s.Alike v w) :
    Together TextsAlike (s.clauses column target v) (s.clauses column target w) := by
  cases s with
  | matchFull => exact single_together (clause_together rfl)
  | matchPartial =>
    -- The texts of the values go into parameters, but one that cannot be written ends the call.
    exact (Together.of_isOk (h.written rfl)).mapError.bind fun _ _ _ =>
      single_together (clause_together rfl)
  | closedRange =>
    exact (boundsOf_together h rfl).bind fun p q hpq => closedClauses_together hpq.1 hpq.2
  | openRange =>
    exact (boundsOf_together h rfl).bind fun p q hpq => openClauses_together hpq.1 hpq.2
  | including => exact single_together (clause_together rfl)

end Strategy

end Clauses

namespace Schema

variable {s : Schema}

/-- A column comes to clauses of the same texts where what is given for it is alike. -/
theorem clausesOf_together {column : String} {m n : Mention} (h : s.MentionAlike column m n) :
    Together TextsAlike (s.clausesOf column m) (s.clausesOf column n) := by
  obtain ⟨hblank, hstrategy⟩ := h.given.value
  -- The target is that of the column as it is written, so that it is the same for both.
  unfold clausesOf
  rw [hblank, h.written]
  split
  · exact .done rfl
  · cases hs : s.strategies.get? column with
    | none => exact .failed _ _
    | some strategy =>
      exact .bind_same fun target _ => Strategy.clauses_together (hstrategy strategy hs)

/-- Columns come to clauses of the same texts where what is given for them is alike. -/
theorem groups_together {es fs : Entries Mention} (h : s.GatheredAlike es fs) :
    Together (fun gs hs => TextsAlike gs.flatten hs.flatten) (s.groups es) (s.groups fs) := by
  induction h with
  | nil => exact .done rfl
  | @cons e f es fs hef _ ih =>
    obtain ⟨column, m⟩ := e
    obtain ⟨other, n⟩ := f
    obtain ⟨rfl, hmn⟩ : column = other ∧ s.MentionAlike column m n := hef
    refine (clausesOf_together hmn).bind fun group group' hgroup => ?_
    refine ih.bind fun rest rest' hrest => .done ?_
    rw [TextsAlike, List.flatten_cons, List.flatten_cons, List.map_append, List.map_append, hgroup,
      hrest]

/-- The same columns are refused where gatherings are alike. -/
theorem checkDeclared_congr {es fs : Entries Mention} (h : s.GatheredAlike es fs) :
    s.checkDeclared es = s.checkDeclared fs := by
  induction h with
  | nil => rfl
  | @cons e f es fs hef _ ih =>
    obtain ⟨column, m⟩ := e
    obtain ⟨other, n⟩ := f
    obtain ⟨rfl, hmn⟩ : column = other ∧ s.MentionAlike column m n := hef
    rw [checkDeclared, checkDeclared, hmn.written, ih]

/-- Criteria that are alike come to clauses of the same texts. -/
theorem criteriaGroups_together (hd : s.strategies.names.Nodup) {es fs : Criteria}
    (hes : List.Forall₂ (fun e f => e.1 = f.1 ∧ s.AlikeUnder e.1 e.2 f.2) es fs) :
    Together (fun gs hs => TextsAlike gs.flatten hs.flatten) (s.criteriaGroups es)
      (s.criteriaGroups fs) := by
  refine (Criteria.fold_together hd hes).bind fun columns columns' hcolumns => ?_
  rw [checkDeclared_congr hcolumns]
  exact .bind_same fun _ _ => groups_together hcolumns

end Schema

namespace Condition

/-- Whether two conditions have the same number of parameters, and one always holds if the other
does. -/
structure Alike (c d : Condition) : Prop where
  /-- Both always hold or neither does. -/
  empty : c.isEmpty = d.isEmpty
  /-- There are as many parameters. -/
  count : c.params.length = d.params.length

/-- A list or tuple of a text and parameters is read as a further condition. -/
theorem ofAdditional_of_sequence {v : Value} {expression : String} {params : List Value}
    (h : v.sequence? = some (.text expression :: params)) :
    ofAdditional v = .ok (some ⟨expression, params⟩) := by
  cases v with
  | list items | tuple items =>
    obtain rfl := Option.some.inj h
    rfl
  | _ => cases h

/-- Further conditions that are alike are read as such. -/
theorem ofAdditional_together {v w : Value} (h : FurtherAlike v w) :
    Together (Option.Rel Alike) (ofAdditional v) (ofAdditional w) := by
  rcases h with rfl | ⟨a, b, ps, qs, hv, hw, hempty, hlength⟩
  · refine Together.refl _ fun further => ?_
    cases further with
    | none => exact .none
    | some c => exact .some ⟨rfl, rfl⟩
  · rw [ofAdditional_of_sequence hv, ofAdditional_of_sequence hw]
    refine .done (.some ⟨?_, hlength⟩)
    rw [Bool.eq_iff_iff, isEmpty, isEmpty, beq_iff_eq, beq_iff_eq]
    exact hempty

/-- Clauses of the same texts and further conditions that are alike make conditions that are. -/
theorem ofClauses_alike {cs ds : List Clause} {further further' : Option Condition}
    (hcs : TextsAlike cs ds) (hfurther : Option.Rel Alike further further') :
    (ofClauses cs further).Alike (ofClauses ds further') := by
  unfold ofClauses
  generalize hlast : (further.toList.filter fun c => !c.isEmpty) = last
  generalize hlast' : (further'.toList.filter fun c => !c.isEmpty) = last'
  have hadded : (last.map expression = [] ↔ last'.map expression = []) ∧
      (last.flatMap params).length = (last'.flatMap params).length := by
    subst hlast hlast'
    -- What always holds is left out of both conditions together with its parameters.
    cases hfurther with
    | none => exact ⟨Iff.rfl, rfl⟩
    | @some c d h =>
      have hempty := h.empty
      cases hd : d.isEmpty with
      | true => simp [hempty.trans hd, hd]
      | false => simp [hempty.trans hd, hd, h.count]
  -- The texts have as many placeholders as the clauses have parameters.
  have hcount : (cs.flatMap Clause.params).length = (ds.flatMap Clause.params).length := by
    rw [← count_texts, ← count_texts, hcs]
  constructor
  case empty =>
    rw [Bool.eq_iff_iff, isEmpty, isEmpty, beq_iff_eq, beq_iff_eq, conjunction_eq_empty_iff,
      conjunction_eq_empty_iff, List.append_eq_nil_iff, List.append_eq_nil_iff, hcs, hadded.1]
  case count => rw [List.length_append, List.length_append, hcount, hadded.2]

end Condition

/-- Criteria that are alike compile to conditions that are, or fail to compile both. -/
theorem Schema.compile_together {s : Schema} (hd : s.strategies.names.Nodup) {es fs : Criteria}
    {v w : Value}
    (hes : List.Forall₂ (fun e f => e.1 = f.1 ∧ s.AlikeUnder e.1 e.2 f.2) es fs)
    (hfurther : FurtherAlike v w) :
    Together Condition.Alike (s.compile es v) (s.compile fs w) := by
  refine (criteriaGroups_together hd hes).bind fun groups groups' hgroups => ?_
  refine (Condition.ofAdditional_together hfurther).mapError.bind fun further further' hf => ?_
  exact .done (Condition.ofClauses_alike hgroups hf)

end Searchable
