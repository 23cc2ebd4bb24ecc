import Mathlib.Algebra.Order.BigOperators.Group.List
import Mathlib.Algebra.Order.Group.Nat
import Mathlib.Data.List.Perm.Subperm
import Mathlib.Data.List.TakeWhile
import Searchable.Proofs.Statement.Marks

/-!
# No bind of a condition is taken for another

What starts a bind in a text is up to a `BindRule`, of which `BindRule.own` is the one that
`Bind.namesIn` reads texts by. Other rules may read the name before another colon differently, as
`BindRule.longest` does; the text of a condition leaves no room for the difference.

A mark is `Mark.IsFree` when nothing before it keeps it from starting a bind and nothing after it
makes its name longer. All marks are found under some name as soon as none of them is blocked, and
then the name that is found has the bind's own as its start (`Condition.read_eq_of_unblocked`). This
does not rule out that the name is another bind's: with a `0` after it, `p1` is found as `p10`. But
if every bind is found somewhere, there are as many distinct names as marks, so the names found are
the names of the binds in another order. Their lengths add up to the same, and none is shorter than
the name at its own mark, so none is longer either (`Condition.isFree_of_found`). Hence the binds of
a condition are all found exactly when all sites are free (`Condition.found_iff_isFree`), and then
each is found at its own mark (`Condition.read_eq_of_isFree`).
-/

namespace Searchable

/-- A rule that says where a bind starts in a text, and under which name. Only a colon that nothing
before it blocks starts a bind. Its name is the run of word characters that follows, if there is one
and it does not end before another colon, in which case the rule may say anything. -/
structure BindRule where
  /-- The name of the bind that a character starts. -/
  nameFrom? : NameFinder
  /-- What starts a bind is a colon that is not blocked. -/
  startsAt : ∀ {before c rest name}, nameFrom? before c rest = some name →
    c = bindMark ∧ before.any blocksBind = false
  /-- The run of word characters after such a colon is the name. -/
  reads : ∀ {before : Option Char} {run rest : List Char}, before.any blocksBind = false →
    run ≠ [] → (∀ c ∈ run, Text.isWordChar c = true) → rest.head?.any Text.isWordChar = false →
    rest.head? ≠ some bindMark → nameFrom? before bindMark (run ++ rest) = some (String.ofList run)

/-- The word characters at the start of a run and more are the run, when none comes next, and what
comes after them is the rest. -/
theorem takeWhile_dropWhile_run {run rest : List Char} (hrun : ∀ c ∈ run, Text.isWordChar c = true)
    (hrest : rest.head?.any Text.isWordChar = false) :
    (run ++ rest).takeWhile Text.isWordChar = run ∧
      (run ++ rest).dropWhile Text.isWordChar = rest := by
  rw [List.takeWhile_append_of_pos hrun, List.dropWhile_append_of_pos hrun]
  cases rest with
  | nil => simp
  | cons c rest =>
    have hc : ¬ Text.isWordChar c = true := by simpa using hrest
    rw [List.takeWhile_cons_of_neg hc, List.dropWhile_cons_of_neg hc, List.append_nil]
    exact ⟨rfl, rfl⟩

namespace BindRule

/-- The rule by which `Bind.namesIn` reads a text: no bind starts before a name that another colon
follows. -/
def own : BindRule where
  nameFrom? := Bind.nameFrom?
  startsAt {before c rest name} h := by
    unfold Bind.nameFrom? at h
    split at h
    · assumption
    · contradiction
  reads {before run rest} hbefore hrun hword hrest hcolon := by
    obtain ⟨hname, hafter⟩ := takeWhile_dropWhile_run hword hrest
    rw [Bind.nameFrom?, if_pos ⟨rfl, hbefore⟩, Bind.nameAt?, hname, hafter, if_neg]
    simp [hrun, hcolon]

/-- The rule that takes all word characters after the colon as the name, whatever follows them. -/
def longest : BindRule where
  nameFrom? before c rest :=
    if c = bindMark ∧ before.any blocksBind = false ∧ rest.takeWhile Text.isWordChar ≠ [] then
      some (String.ofList (rest.takeWhile Text.isWordChar))
    else none
  startsAt {before c rest name} h := by
    split at h
    · rename_i hstart
      exact ⟨hstart.1, hstart.2.1⟩
    · contradiction
  reads {before run rest} hbefore hrun hword hrest _ := by
    rw [(takeWhile_dropWhile_run hword hrest).1, if_pos ⟨rfl, hbefore, hrun⟩]

/-- The names that a rule finds in a text, in order. -/
def namesIn (rule : BindRule) (cs : List Char) : List String :=
  (TextClause.occurrences rule.nameFrom? [] cs).map Prod.snd

/-- No rule finds a name at a colon after a backslash. -/
theorem heeds (rule : BindRule) : TextClause.Heeds rule.nameFrom? := by
  intro before c rest h
  obtain ⟨name, hname⟩ := Option.ne_none_iff_exists'.mp h
  obtain ⟨hc, hbefore⟩ := rule.startsAt hname
  refine ⟨hc, ?_⟩
  rintro rfl
  exact absurd hbefore (by decide)

/-- The rule of `Bind.namesIn` finds what `Bind.namesIn` lists. -/
theorem namesIn_own (cs : List Char) : own.namesIn cs = Bind.namesIn cs := by
  -- The list of names only depends on the last character before the rest of the text.
  have hafter (left rest : List Char) :
      (TextClause.occurrences own.nameFrom? left rest).map Prod.snd =
        Bind.namesAfter left.getLast? rest := by
    induction rest generalizing left with
    | nil => rfl
    | cons c rest ih =>
      rw [TextClause.occurrences, List.map_append, ih, List.getLast?_concat, Bind.namesAfter]
      congr 1
      show _ = (own.nameFrom? left.getLast? c rest).toList
      cases own.nameFrom? left.getLast? c rest with
      | none => rfl
      | some name => rfl
  exact hafter [] cs

-- The two rules differ in what they find before another colon.
example : longest.namesIn "(:p0:)".toList = ["p0"] ∧ own.namesIn "(:p0:)".toList = [] := by
  decide

end BindRule

/-! ## Free marks and free sites -/

/-- Nothing before the mark keeps it from starting a bind, and nothing after it makes its name
longer. -/
def Mark.IsFree (m : Mark) : Prop :=
  m.left.getLast?.any blocksBind = false ∧ m.right.head?.any Text.isWordChar = false

/-- The word characters after the colon of a mark: the name of the bind and those that follow. -/
def Mark.run (m : Mark) : List Char :=
  m.bind.name.toList ++ m.right.takeWhile Text.isWordChar

/-- What follows the colon of a mark is its run and no further word character. -/
theorem Mark.name_append_right (m : Mark) :
    m.bind.name.toList ++ m.right = m.run ++ m.right.dropWhile Text.isWordChar := by
  unfold run
  rw [List.append_assoc, List.takeWhile_append_dropWhile]

/-- No word character follows a mark exactly when its run is no longer than the name. -/
theorem Mark.length_run_le_iff (m : Mark) :
    m.run.length ≤ m.bind.name.length ↔ m.right.head?.any Text.isWordChar = false := by
  unfold run
  rw [List.length_append, String.length_toList]
  cases m.right with
  | nil => simp
  | cons d rest =>
    by_cases hd : Text.isWordChar d = true
    · rw [List.takeWhile_cons_of_pos hd]
      simp [hd]
    · rw [List.takeWhile_cons_of_neg hd]
      simp [hd]

/-- If the site has a bind at all, nothing before it keeps the first from starting and nothing after
it makes the name of the last longer. -/
def Site.IsFree (s : Site) : Prop :=
  s.binds ≠ [] →
    s.left.getLast?.any blocksBind = false ∧ s.right.head?.any Text.isWordChar = false

/-- The marks of a site with a bind are free exactly when the site is, since they are apart from
each other. -/
theorem Site.forall_marksOf_isFree {left right : List Char} {b : Bind} {bs : List Bind} :
    (∀ m ∈ marksOf left (b :: bs) right, m.IsFree) ↔
      left.getLast?.any blocksBind = false ∧ right.head?.any Text.isWordChar = false := by
  induction bs generalizing left b with
  | nil => simp [marksOf, Mark.IsFree, followers]
  | cons b' bs ih =>
    have hspace : (left ++ b.mark.toList ++ ", ".toList).getLast?.any blocksBind = false := by
      rw [List.getLast?_append_of_ne_nil _ (by decide)]
      decide
    have hcomma : (followers (b' :: bs) ++ right).head?.any Text.isWordChar = false := by
      have : Text.isWordChar ',' = false := by decide
      simpa [followers] using this
    rw [marksOf, List.forall_mem_cons, ih, hspace]
    unfold Mark.IsFree
    rw [hcomma]
    simp

/-- A site is free exactly when its marks are. -/
theorem Site.isFree_iff (s : Site) : s.IsFree ↔ ∀ m ∈ s.marks, m.IsFree := by
  unfold IsFree marks
  cases hbinds : s.binds with
  | nil => simp [marksOf]
  | cons b bs => rw [forall_marksOf_isFree, imp_iff_right (List.cons_ne_nil b bs)]

/-- The finder that takes every colon but those after a backslash. -/
def bareColon : NameFinder := fun before c _ =>
  if c = bindMark ∧ before ≠ some escapeMark then some "" else none

/-- It takes only colons, and none after a backslash. -/
theorem heeds_bareColon : TextClause.Heeds bareColon := by
  intro before c rest h
  by_contra hnot
  exact h (if_neg hnot)

namespace Condition

/-- The binds of a condition, in order. -/
def binds (c : Condition) : List Bind :=
  (Bind.ofParams 0 c.params).flatten

/-- The text of a condition with its binds. -/
def bound (c : Condition) : List Char :=
  TextClause.interleave (pieces c.expression.toList) (Bind.ofParams 0 c.params)

/-- The sites of the placeholders in the text of a condition. -/
def sites (c : Condition) : List Site :=
  TextClause.sitesFrom [] (pieces c.expression.toList) (Bind.ofParams 0 c.params)

/-- The marks in the text of a condition, in order. -/
def marks (c : Condition) : List Mark :=
  c.sites.flatMap Site.marks

variable {c : Condition}

/-- Each site makes up the text with what is around it. -/
theorem text_of_mem_sites {s : Site} (h : s ∈ c.sites) : s.text = c.bound := by
  rw [TextClause.text_of_mem_sitesFrom h]
  rfl

/-- Each mark makes up the text with what is around it. -/
theorem text_of_mem_marks {m : Mark} (h : m ∈ c.marks) : m.text = c.bound := by
  obtain ⟨s, hs, hm⟩ := List.mem_flatMap.mp h
  rw [Site.text_of_mem_marksOf hm, ← text_of_mem_sites hs]
  rfl

/-- There are as many lists of binds as parameters. -/
theorem length_ofParams (first : Nat) (vs : List Value) :
    (Bind.ofParams first vs).length = vs.length := by
  induction vs generalizing first with
  | nil => rfl
  | cons v vs ih => rw [Bind.ofParams, List.length_cons, ih, List.length_cons]

/-- There is a site for each parameter, with its binds. -/
theorem map_binds_sites (h : placeholders c.expression = c.params.length) :
    c.sites.map Site.binds = Bind.ofParams 0 c.params := by
  refine TextClause.map_binds_sitesFrom [] ?_
  rw [length_ofParams, length_pieces, ← h]
  exact Nat.le_succ _

/-- There is a mark for each bind. -/
theorem map_bind_marks (h : placeholders c.expression = c.params.length) :
    c.marks.map Mark.bind = c.binds := by
  have hmarks (s : Site) : s.marks.map Mark.bind = s.binds := Site.map_bind_marksOf _ _ _
  unfold marks binds
  rw [List.map_flatMap, ← map_binds_sites h]
  simp only [hmarks, List.flatMap_def]

/-- A mark is of a bind of the condition. -/
theorem bind_mem_binds (h : placeholders c.expression = c.params.length) {m : Mark}
    (hm : m ∈ c.marks) : m.bind ∈ c.binds := by
  rw [← map_bind_marks h]
  exact List.mem_map_of_mem hm

/-- The marks are free exactly when the sites are. -/
theorem forall_marks_isFree : (∀ m ∈ c.marks, m.IsFree) ↔ ∀ s ∈ c.sites, s.IsFree := by
  unfold marks
  rw [List.forall_mem_flatMap]
  exact forall₂_congr fun s _ => (s.isFree_iff).symm

/-- In the text of a condition there is what the marks say. -/
theorem occurrences_bound {f : NameFinder} (hf : TextClause.Heeds f) :
    TextClause.occurrences f [] c.bound =
      c.marks.filterMap (TextClause.occurrenceAt? f) := by
  refine TextClause.occurrences_interleave hf fun b hb hcolon => ?_
  have := (Bind.wordChars_of_mem hb).2 bindMark hcolon
  exact absurd this (by decide)

/-- A character of the text that is found to start a bind is the colon of a mark. -/
theorem exists_mark_of_found {f : NameFinder} (hf : TextClause.Heeds f) {left right : List Char}
    {d : Char} {name : String} (htext : c.bound = left ++ d :: right)
    (h : f left.getLast? d right = some name) : ∃ m ∈ c.marks, m.left = left := by
  have hmem : (left, name) ∈ TextClause.occurrences f [] c.bound :=
    TextClause.mem_occurrences.mpr ⟨left, d, right, htext, rfl, h⟩
  rw [occurrences_bound hf, List.mem_filterMap] at hmem
  obtain ⟨m, hm, hat⟩ := hmem
  unfold TextClause.occurrenceAt? at hat
  rw [Option.map_eq_some_iff] at hat
  obtain ⟨n, -, heq⟩ := hat
  exact ⟨m, hm, (Prod.mk.inj heq).1⟩

/-- A colon of the text that no backslash comes before is that of a mark. -/
theorem exists_mark_of_colon {left right : List Char} (htext : c.bound = left ++ bindMark :: right)
    (h : left.getLast? ≠ some escapeMark) : ∃ m ∈ c.marks, m.left = left :=
  exists_mark_of_found heeds_bareColon htext (if_pos ⟨rfl, h⟩)

/-- The run of a mark has at least the name's characters, and word characters only. -/
theorem wordChars_run (harity : placeholders c.expression = c.params.length) {m : Mark}
    (hm : m ∈ c.marks) : m.run ≠ [] ∧ ∀ d ∈ m.run, Text.isWordChar d = true := by
  obtain ⟨hne, hname⟩ := Bind.wordChars_of_mem (bind_mem_binds harity hm)
  refine ⟨List.append_ne_nil_of_left_ne_nil hne _, fun d hd => ?_⟩
  rcases List.mem_append.mp hd with hd | hd
  · exact hname d hd
  · exact List.mem_takeWhile_imp hd

/-- No mark is blocked. -/
def Unblocked (c : Condition) : Prop :=
  ∀ m ∈ c.marks, m.left.getLast?.any blocksBind = false

/-- If no mark is blocked, no run ends before a colon. -/
theorem head?_ne_bindMark (harity : placeholders c.expression = c.params.length)
    (hc : c.Unblocked) {m : Mark} (hm : m ∈ c.marks) :
    (m.right.dropWhile Text.isWordChar).head? ≠ some bindMark := by
  intro hcolon
  obtain ⟨rest, hrest⟩ := List.head?_eq_some_iff.mp hcolon
  obtain ⟨hne, hword⟩ := wordChars_run harity hm
  obtain ⟨init, last, hlast⟩ := (List.eq_nil_or_concat' m.run).resolve_left hne
  have hlastword : Text.isWordChar last = true := hword last (by rw [hlast]; simp)
  have htext : c.bound = (m.left ++ bindMark :: m.run) ++ bindMark :: rest := by
    rw [← text_of_mem_marks hm, Mark.text, Bind.toList_mark, List.append_assoc, List.cons_append,
      m.name_append_right, hrest, List.append_assoc, List.cons_append]
  have hbefore : (m.left ++ bindMark :: m.run).getLast? = some last := by
    rw [hlast, ← List.cons_append, ← List.append_assoc]
    exact List.getLast?_concat
  -- A word character comes before the colon, so it is a mark's, and that mark is blocked.
  obtain ⟨m', hm', hleft⟩ := exists_mark_of_colon htext (by
    rw [hbefore]
    rintro ⟨⟩
    exact absurd hlastword (by decide))
  have hblocked := hc m' hm'
  rw [hleft, hbefore] at hblocked
  simp [blocksBind, hlastword] at hblocked

/-- If no mark is blocked, every rule finds a name at each of them: the whole run. -/
theorem read_eq_of_unblocked (harity : placeholders c.expression = c.params.length)
    (hc : c.Unblocked) (rule : BindRule) {m : Mark} (hm : m ∈ c.marks) :
    m.read rule.nameFrom? = some (String.ofList m.run) := by
  obtain ⟨hne, hword⟩ := wordChars_run harity hm
  have hstop : (m.right.dropWhile Text.isWordChar).head?.any Text.isWordChar = false := by
    have := List.head?_dropWhile_not Text.isWordChar m.right
    cases hhead : (m.right.dropWhile Text.isWordChar).head? with
    | none => rfl
    | some d => simpa [hhead] using this
  unfold Mark.read
  rw [m.name_append_right]
  exact rule.reads (hc m hm) hne hword hstop (head?_ne_bindMark harity hc hm)

/-- What a rule finds in the text of a condition, in order. -/
theorem namesIn_bound (rule : BindRule) :
    rule.namesIn c.bound = c.marks.filterMap (Mark.read rule.nameFrom?) := by
  have hat (m : Mark) :
      (TextClause.occurrenceAt? rule.nameFrom? m).map Prod.snd = m.read rule.nameFrom? := by
    unfold TextClause.occurrenceAt?
    rw [Option.map_map]
    exact Option.map_id'
  unfold BindRule.namesIn
  rw [occurrences_bound rule.heeds, List.map_filterMap]
  exact List.filterMap_congr fun m _ => hat m

/-- If every bind is found somewhere, no mark is blocked, and no name goes on after its mark. -/
theorem isFree_of_found (harity : placeholders c.expression = c.params.length)
    {rule : BindRule} (h : ∀ b ∈ c.binds, b.name ∈ rule.namesIn c.bound) :
    ∀ m ∈ c.marks, m.IsFree := by
  have hnames : c.binds.map Bind.name = c.marks.map fun m => m.bind.name := by
    rw [← map_bind_marks harity, List.map_map]
    rfl
  -- There are no more names to be found than marks, and the binds' names are distinct.
  have hperm : (c.binds.map Bind.name).Perm (rule.namesIn c.bound) := by
    refine List.Subperm.perm_of_length_le (List.Nodup.subperm ?_ ?_) ?_
    · exact Bind.nodup_names_ofParams 0 c.params
    · intro name hname
      obtain ⟨b, hb, rfl⟩ := List.mem_map.mp hname
      exact h b hb
    · rw [hnames, List.length_map, namesIn_bound]
      exact List.length_filterMap_le _ _
  rw [hnames, namesIn_bound] at hperm
  have hall : ∀ m ∈ c.marks, (m.read rule.nameFrom?).isSome = true := by
    rw [← List.filterMap_length_eq_length, ← hperm.length_eq, List.length_map]
  have hunblocked : c.Unblocked := by
    intro m hm
    obtain ⟨name, hname⟩ := Option.isSome_iff_exists.mp (hall m hm)
    exact (rule.startsAt hname).2
  have hread : c.marks.filterMap (Mark.read rule.nameFrom?) =
      c.marks.map fun m => String.ofList m.run := by
    rw [← List.filterMap_eq_map]
    exact List.filterMap_congr fun m hm => read_eq_of_unblocked harity hunblocked rule hm
  rw [hread] at hperm
  have hsum := (hperm.map String.length).sum_eq
  rw [List.map_map, List.map_map] at hsum
  intro m hm
  refine ⟨hunblocked m hm, ?_⟩
  rw [← Mark.length_run_le_iff]
  by_contra hlonger
  -- One run longer than its name would make all runs together longer than all names.
  have hlt := List.sum_lt_sum (l := c.marks) (String.length ∘ fun m => m.bind.name)
    (String.length ∘ fun m => String.ofList m.run) (fun m _ => by simp [Mark.run])
    ⟨m, hm, by simpa using hlonger⟩
  omega

/-- At a free mark every rule finds the name of the bind, if the other marks are free, too. -/
theorem read_eq_of_isFree (harity : placeholders c.expression = c.params.length)
    (hfree : ∀ m ∈ c.marks, m.IsFree) (rule : BindRule) {m : Mark} (hm : m ∈ c.marks) :
    m.read rule.nameFrom? = some m.bind.name := by
  have hstop : m.right.takeWhile Text.isWordChar = [] := by
    have hright := (hfree m hm).2
    cases h : m.right with
    | nil => rfl
    | cons d rest => simpa [h, List.takeWhile_cons] using hright
  rw [read_eq_of_unblocked harity (fun m hm => (hfree m hm).1) rule hm, Mark.run, hstop,
    List.append_nil, String.ofList_toList]

/-- If all marks are free, every rule finds the binds, in order, and nothing else. -/
theorem namesIn_eq_of_isFree (harity : placeholders c.expression = c.params.length)
    (hfree : ∀ m ∈ c.marks, m.IsFree) (rule : BindRule) :
    rule.namesIn c.bound = c.binds.map Bind.name := by
  rw [namesIn_bound, ← map_bind_marks harity, List.map_map, ← List.filterMap_eq_map]
  exact List.filterMap_congr fun m hm => read_eq_of_isFree harity hfree rule hm

/-- A rule finds every bind somewhere exactly when all sites are free. -/
theorem found_iff_isFree (harity : placeholders c.expression = c.params.length)
    (rule : BindRule) :
    (∀ b ∈ c.binds, b.name ∈ rule.namesIn c.bound) ↔ ∀ s ∈ c.sites, s.IsFree := by
  rw [← forall_marks_isFree]
  refine ⟨isFree_of_found harity, fun hfree b hb => ?_⟩
  rw [namesIn_eq_of_isFree harity hfree rule]
  exact List.mem_map_of_mem hb

end Condition

end Searchable
