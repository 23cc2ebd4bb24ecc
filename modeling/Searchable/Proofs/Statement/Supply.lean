import Searchable.Proofs.Merging
import Searchable.Proofs.Statement.Capture

/-!
# Every bind of a condition gets its own value

`TextClause.ofCondition` refuses the values that are not taken, writes the text, and then gives the
binds that it finds there their values, which fails where it does not find one of them
(`supply_eq_ok_iff`). Since the names of the binds are distinct, no value is given up for another
(`get?_given`).

`CaptureFree` collects what that means for a whole condition. It holds of all conditions with a
parameter for each placeholder.
-/

namespace Searchable

variable {refuses : Value → Bool}

namespace TextClause

/-- The values of binds after some have been given theirs. -/
def given (params : Entries Value) : List Bind → Entries Value
  | [] => params
  | b :: bs => given (params.put b.name b.value) bs

/-- The binds of a text without values are those that are found there. -/
theorem mem_names_ofChars {name : String} {cs : List Char} :
    name ∈ (ofChars cs).params.names ↔ name ∈ Bind.namesIn cs := by
  unfold ofChars
  rw [Entries.mem_names_ofList, List.map_map]
  simp [Function.comp_def]

/-- Values are given to binds exactly when the text has all of them. -/
theorem supply_eq_ok_iff {c t : TextClause} {bs : List Bind} :
    c.supply bs = .ok t ↔
      (∀ b ∈ bs, b.name ∈ c.params.names) ∧ t = ⟨c.chars, given c.params bs⟩ := by
  induction bs generalizing c with
  | nil =>
    rw [supply, Except.ok.injEq]
    simp [given, eq_comm]
  | cons b bs ih =>
    unfold supply
    by_cases hb : b.name ∈ c.params.names
    · have hcontains : c.params.contains b.name = true := Entries.get?_isSome_iff.mpr hb
      have hput := Entries.names_put_of_mem hb b.value
      rw [if_pos hcontains, ih, List.forall_mem_cons, given, hput]
      simp [hb]
    · have hnot : ¬ c.params.contains b.name = true := fun h =>
        hb (Entries.get?_isSome_iff.mp h)
      rw [if_neg hnot, List.forall_mem_cons]
      simp [hb]

/-- Binds of other names do not touch a value. -/
theorem get?_given_of_not_mem {name : String} {bs : List Bind} {params : Entries Value}
    (h : name ∉ bs.map Bind.name) : (given params bs).get? name = params.get? name := by
  induction bs generalizing params with
  | nil => rfl
  | cons b bs ih =>
    rw [List.map_cons, List.mem_cons, not_or] at h
    rw [given, ih h.2, Entries.get?_put_of_ne b.value params h.1]

/-- Binds with distinct names get their own values. -/
theorem get?_given {bs : List Bind} {params : Entries Value} (h : (bs.map Bind.name).Nodup)
    {b : Bind} (hb : b ∈ bs) : (given params bs).get? b.name = some b.value := by
  induction bs generalizing params with
  | nil => contradiction
  | cons a bs ih =>
    rw [List.map_cons, List.nodup_cons] at h
    rw [given]
    rcases List.mem_cons.mp hb with rfl | hb
    -- No later bind has the name of the first, so its value stays.
    · rw [get?_given_of_not_mem h.1, Entries.get?_put_self]
    · exact ih h.2 hb

/-- A bind is refused exactly when its value is not taken. -/
theorem check_eq_ok_iff {b : Bind} : b.check refuses = .ok () ↔ refuses b.value = false := by
  unfold Bind.check
  cases refuses b.value <;> simp

/-- Binds are refused exactly when one of them is. -/
theorem forM_check_eq_ok_iff {bs : List Bind} :
    bs.forM (Bind.check refuses) = .ok () ↔ ∀ b ∈ bs, refuses b.value = false := by
  induction bs with
  | nil => simp [pure, Except.pure]
  | cons b bs ih =>
    rw [List.forall_mem_cons, ← ih, ← check_eq_ok_iff]
    show (b.check refuses >>= fun _ => bs.forM (Bind.check refuses)) = _ ↔ _
    cases b.check refuses with
    | error e => simp [bind, Except.bind]
    | ok u => simp [bind, Except.bind]

/-- Where binds are refused, it is for one of their values. -/
theorem exists_misused {bs : List Bind} {e : Misuse}
    (h : bs.forM (Bind.check refuses) = .error e) :
    ∃ b ∈ bs, refuses b.value = true ∧ e = b.value.misusedAs .notBindable := by
  induction bs with
  | nil => cases h
  | cons b bs ih =>
    have hcons : (b.check refuses >>= fun _ => bs.forM (Bind.check refuses)) = .error e := h
    cases hb : b.check refuses with
    | error f =>
      rw [hb] at hcons
      obtain rfl : f = e := Except.error.inj hcons
      unfold Bind.check at hb
      split at hb
      · rename_i hvalue
        exact ⟨b, List.mem_cons_self, hvalue, (Except.error.inj hb).symm⟩
      · cases hb
    | ok u =>
      rw [hb] at hcons
      obtain ⟨c, hc, hvalue, he⟩ := ih hcons
      exact ⟨c, List.mem_cons_of_mem b hc, hvalue, he⟩

/-- Values that are not refused are only missing their binds. -/
theorem exists_unrecognisedBind {bs : List Bind} {c : TextClause} {e : Misuse}
    (h : c.supply bs = .error e) : ∃ name, e = .unrecognisedBind name := by
  induction bs generalizing c with
  | nil => cases h
  | cons b bs ih =>
    unfold supply at h
    split at h
    · exact ih h
    · exact ⟨b.name, (Except.error.inj h).symm⟩

/-- What a condition with a parameter for each placeholder goes through. -/
theorem ofCondition_of_arity {c : Condition}
    (harity : placeholders c.expression = c.params.length) :
    ofCondition refuses c =
      (c.binds.forM (Bind.check refuses) >>= fun _ => (ofChars c.bound).supply c.binds) := by
  rw [ofCondition, if_pos harity]
  rfl

/-- A condition that becomes a clause has a parameter for each placeholder. -/
theorem arity_of_ofCondition {c : Condition} {t : TextClause}
    (h : ofCondition refuses c = .ok t) : placeholders c.expression = c.params.length := by
  by_contra harity
  rw [ofCondition, if_neg harity] at h
  cases h

/-- A condition with a parameter for each placeholder becomes a clause exactly when no value is
refused and all binds are found. -/
theorem ofCondition_eq_ok_iff {c : Condition} {t : TextClause}
    (harity : placeholders c.expression = c.params.length) :
    ofCondition refuses c = .ok t ↔
      (∀ b ∈ c.binds, refuses b.value = false) ∧
        (∀ b ∈ c.binds, b.name ∈ Bind.namesIn c.bound) ∧
          t = ⟨c.bound, given (ofChars c.bound).params c.binds⟩ := by
  have hsupply : (ofChars c.bound).supply c.binds = .ok t ↔
      (∀ b ∈ c.binds, b.name ∈ Bind.namesIn c.bound) ∧
        t = ⟨c.bound, given (ofChars c.bound).params c.binds⟩ := by
    rw [supply_eq_ok_iff]
    simp only [mem_names_ofChars]
    rfl
  rw [ofCondition_of_arity harity, ← hsupply, ← forM_check_eq_ok_iff]
  cases c.binds.forM (Bind.check refuses) with
  | error e => simp [bind, Except.bind]
  | ok u => simp [bind, Except.bind]

/-- A condition is refused for the number of its parameters exactly when it has another number of
placeholders. -/
theorem ofCondition_eq_conditionArity_iff {c : Condition} {m n : Nat} :
    ofCondition refuses c = .error (.conditionArity m n) ↔
      m = placeholders c.expression ∧ n = c.params.length ∧
        placeholders c.expression ≠ c.params.length := by
  by_cases harity : placeholders c.expression = c.params.length
  · rw [ofCondition_of_arity harity]
    refine ⟨fun h => ?_, fun h => absurd harity h.2.2⟩
    cases hcheck : c.binds.forM (Bind.check refuses) with
    | error e =>
      rw [hcheck] at h
      obtain ⟨b, -, -, he⟩ := exists_misused hcheck
      obtain rfl : e = .conditionArity m n := Except.error.inj h
      unfold Value.misusedAs at he
      split at he <;> cases he
    | ok u =>
      rw [hcheck] at h
      obtain ⟨name, he⟩ := exists_unrecognisedBind h
      cases he
  · rw [ofCondition, if_neg harity, Except.error.injEq, Misuse.conditionArity.injEq]
    exact ⟨fun h => ⟨h.1.symm, h.2.symm, harity⟩, fun h => ⟨h.1.symm, h.2.1.symm⟩⟩

end TextClause

/-- No bind of a condition is taken for another, whatever the rule that texts are searched by and
whichever values are refused. -/
structure CaptureFree (refuses : Value → Bool) (c : Condition) : Prop where
  /-- The names of the binds are pairwise distinct. -/
  nodup_names : (c.binds.map Bind.name).Nodup
  /-- The text has a site for each placeholder, with the binds of its parameter. -/
  sites : c.sites.map Site.binds = Bind.ofParams 0 c.params ∧ ∀ s ∈ c.sites, s.text = c.bound
  /-- The text has a mark for each bind. -/
  marks : c.marks.map Mark.bind = c.binds ∧ ∀ m ∈ c.marks, m.text = c.bound
  /-- Only the colon of a mark ever starts a bind. -/
  mark_of_found : ∀ (rule : BindRule) (left right : List Char) (d : Char) (name : String),
    c.bound = left ++ d :: right → rule.nameFrom? left.getLast? d right = some name →
      ∃ m ∈ c.marks, m.left = left
  /-- A rule finds all binds exactly when every site with a bind is free. -/
  found_iff : ∀ rule : BindRule,
    (∀ b ∈ c.binds, b.name ∈ rule.namesIn c.bound) ↔ ∀ s ∈ c.sites, s.IsFree
  /-- The condition becomes a clause exactly when every site with a bind is free and the value of
  each bind is taken. -/
  accepted_iff : (∃ t, TextClause.ofCondition refuses c = .ok t) ↔
    (∀ b ∈ c.binds, refuses b.value = false) ∧ ∀ s ∈ c.sites, s.IsFree
  /-- When it does, every rule finds at each mark the name of its own bind, which has its own
  value. -/
  own_name : ∀ t, TextClause.ofCondition refuses c = .ok t → t.chars = c.bound ∧
    ∀ m ∈ c.marks, (∀ rule : BindRule, m.read rule.nameFrom? = some m.bind.name) ∧
      t.params.get? m.bind.name = some m.bind.value

namespace Condition

/-- A condition with a parameter for each placeholder becomes a clause exactly when no value is
refused and all sites are free. -/
theorem exists_ofCondition_iff {c : Condition}
    (harity : placeholders c.expression = c.params.length) :
    (∃ t, TextClause.ofCondition refuses c = .ok t) ↔
      (∀ b ∈ c.binds, refuses b.value = false) ∧ ∀ s ∈ c.sites, s.IsFree := by
  rw [← found_iff_isFree harity BindRule.own, BindRule.namesIn_own]
  constructor
  · rintro ⟨t, ht⟩
    obtain ⟨hvalues, hfound, -⟩ := (TextClause.ofCondition_eq_ok_iff harity).mp ht
    exact ⟨hvalues, hfound⟩
  · rintro ⟨hvalues, hfound⟩
    exact ⟨_, (TextClause.ofCondition_eq_ok_iff harity).mpr ⟨hvalues, hfound, rfl⟩⟩

/-- A condition that becomes a clause keeps its text, in which all marks are free, and its binds
have been given their values. -/
theorem eq_of_ofCondition {c : Condition} {t : TextClause}
    (h : TextClause.ofCondition refuses c = .ok t) :
    t = ⟨c.bound, TextClause.given (TextClause.ofChars c.bound).params c.binds⟩ ∧
      ∀ m ∈ c.marks, m.IsFree := by
  have harity := TextClause.arity_of_ofCondition h
  exact ⟨((TextClause.ofCondition_eq_ok_iff harity).mp h).2.2,
    forall_marks_isFree.mpr ((exists_ofCondition_iff harity).mp ⟨t, h⟩).2⟩

/-- No bind of a condition with a parameter for each placeholder is taken for another. -/
theorem captureFree (refuses : Value → Bool) (c : Condition)
    (harity : placeholders c.expression = c.params.length) : CaptureFree refuses c where
  nodup_names := Bind.nodup_names_ofParams 0 c.params
  sites := ⟨map_binds_sites harity, fun _ => text_of_mem_sites⟩
  marks := ⟨map_bind_marks harity, fun _ => text_of_mem_marks⟩
  mark_of_found rule _ _ _ _ htext hfound := exists_mark_of_found rule.heeds htext hfound
  found_iff := found_iff_isFree harity
  accepted_iff := exists_ofCondition_iff harity
  own_name t ht := by
    obtain ⟨rfl, hfree⟩ := eq_of_ofCondition ht
    refine ⟨rfl, fun m hm => ⟨fun rule => read_eq_of_isFree harity hfree rule hm, ?_⟩⟩
    exact TextClause.get?_given (Bind.nodup_names_ofParams 0 c.params) (bind_mem_binds harity hm)

/-- A condition with a collection among its parameters and a text that looks like a bind. -/
def withCollection : Condition :=
  ⟨"a = ? AND b IN (?) AND c <> ':p0'", [.int 1, .list [.int 2, .int 3]]⟩

/-- The premise of `captureFree` holds of a condition like that. -/
theorem captureFree_withCollection :
    placeholders withCollection.expression = withCollection.params.length ∧
      CaptureFree Value.isModel withCollection :=
  ⟨by decide, captureFree Value.isModel withCollection (by decide)⟩

-- The second bind is found under the name of an eleventh parameter, and not under its own.
example : TextClause.ofCondition Value.isModel ⟨"? ?0", [.int 1, .int 2]⟩ =
    .error (.unrecognisedBind "p1") := by
  cbv

end Condition

end Searchable
