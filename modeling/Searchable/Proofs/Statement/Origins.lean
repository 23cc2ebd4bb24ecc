import Searchable.Proofs.Chains
import Searchable.Proofs.Statement.Supply
import Searchable.Statement.Written

/-!
# Where the binds of a statement come from

A statement has the binds that its conditions bring (`Statement.Brings`), those for the numbers of
records, and no others unless its order starts some. The text of the conditions is escaped before it
is searched for binds. That of the order is searched as it is, so that a colon that nothing blocks
and that a word character follows starts a bind there (`StartsBind`), for which nobody has a value.
`Statement.IsBoundBy` says what the binds of a statement are in either case, and
`Statement.build_isBoundBy` that those of every statement are so.

A value is found by the name of its bind, and of equal names the last counts. So an order that has
the name of a parameter's bind after a colon, be it in a quoted text, takes the parameter's value
away (`Statement.quotedName_overrides`).
-/

namespace Searchable

variable {refuses : Value → Bool}

/-- The value of a bind under its name. -/
def Bind.entry (b : Bind) : String × Value :=
  (b.name, b.value)

/-- The names of entries made of binds are the names of the binds. -/
theorem Bind.names_map_entry (bs : List Bind) :
    Entries.names (bs.map Bind.entry) = bs.map Bind.name := by
  unfold Entries.names
  rw [List.map_map]
  rfl

/-! ## Names that start in a text -/

/-- Some colon is not blocked, and a word character follows it. -/
def StartsBind (cs : List Char) : Prop :=
  ∃ before after, cs = before ++ bindMark :: after ∧ before.getLast?.any blocksBind = false ∧
    after.head?.any Text.isWordChar = true

/-- Characters start with a run of word characters exactly when they start with one. -/
theorem takeWhile_isWordChar_ne_nil_iff {cs : List Char} :
    cs.takeWhile Text.isWordChar ≠ [] ↔ cs.head?.any Text.isWordChar = true := by
  cases cs with
  | nil => simp
  | cons c cs =>
    rw [List.takeWhile_cons]
    cases hc : Text.isWordChar c <;> simp [hc]

namespace BindRule

/-- A rule finds a name in a text exactly when it finds it at one of the characters. -/
theorem mem_namesIn_iff {rule : BindRule} {cs : List Char} {name : String} :
    name ∈ rule.namesIn cs ↔ ∃ before c after, cs = before ++ c :: after ∧
      rule.nameFrom? before.getLast? c after = some name := by
  unfold namesIn
  rw [List.mem_map]
  constructor
  · rintro ⟨⟨place, found⟩, hfound, rfl⟩
    obtain ⟨before, c, after, hcs, hplace, hname⟩ := TextClause.mem_occurrences.mp hfound
    rw [hplace, List.nil_append] at hname
    exact ⟨before, c, after, hcs, hname⟩
  · rintro ⟨before, c, after, hcs, hname⟩
    exact ⟨(before, name),
      TextClause.mem_occurrences.mpr ⟨before, c, after, hcs, rfl, hname⟩, rfl⟩

/-- Where the longest run is the name, there is a name exactly if a colon starts a bind. -/
theorem namesIn_longest_eq_nil_iff {cs : List Char} :
    longest.namesIn cs = [] ↔ ¬StartsBind cs := by
  rw [List.eq_nil_iff_forall_not_mem]
  constructor
  · rintro hnone ⟨before, after, hcs, hbefore, hafter⟩
    have hrun := takeWhile_isWordChar_ne_nil_iff.mpr hafter
    exact hnone _ (mem_namesIn_iff.mpr
      ⟨before, bindMark, after, hcs, if_pos ⟨rfl, hbefore, hrun⟩⟩)
  · intro hstarts name hname
    obtain ⟨before, c, after, hcs, hfound⟩ := mem_namesIn_iff.mp hname
    obtain ⟨rfl, hbefore⟩ := longest.startsAt hfound
    refine hstarts ⟨before, after, hcs, hbefore, takeWhile_isWordChar_ne_nil_iff.mp fun hrun => ?_⟩
    have hnone : longest.nameFrom? before.getLast? bindMark after = none :=
      if_neg fun hstart => hstart.2.2 hrun
    rw [hnone] at hfound
    cases hfound

/-- A bind that a text has is started by one of its colons. -/
theorem startsBind_of_mem {cs : List Char} {name : String} (h : name ∈ Bind.namesIn cs) :
    StartsBind cs := by
  rw [← namesIn_own] at h
  obtain ⟨before, c, after, hcs, hfound⟩ := mem_namesIn_iff.mp h
  obtain ⟨rfl, hbefore⟩ := own.startsAt hfound
  refine ⟨before, after, hcs, hbefore, takeWhile_isWordChar_ne_nil_iff.mp fun hrun => ?_⟩
  have hnone : own.nameFrom? before.getLast? bindMark after = none := by
    show Bind.nameFrom? _ _ _ = none
    rw [Bind.nameFrom?, if_pos ⟨rfl, hbefore⟩, Bind.nameAt?, hrun]
    exact if_pos (Or.inl rfl)
  rw [hnone] at hfound
  cases hfound

end BindRule

/-! ## Clauses and the values of their binds -/

namespace TextClause

/-- Binds that a text starts have no values. -/
theorem get?_ofChars (name : String) (cs : List Char) :
    (ofChars cs).params.get? name = if name ∈ Bind.namesIn cs then some .null else none := by
  unfold ofChars
  induction Bind.namesIn cs with
  | nil => rfl
  | cons n names ih =>
    have hsplit : ((n :: names).map fun name => (name, Value.null)) =
        [(n, .null)] ++ names.map fun name => (name, .null) := rfl
    have hfirst : Entries.ofList [(n, Value.null)] = [(n, .null)] := rfl
    rw [hsplit, Entries.get?_ofList_append, ih, hfirst, Entries.get?_singleton]
    by_cases hname : name ∈ names
    · simp [hname]
    · simp [hname, eq_comm]

/-- Binds that are known stay as they are when they are given values. -/
theorem names_given {bs : List Bind} {params : Entries Value}
    (h : ∀ b ∈ bs, b.name ∈ params.names) : (given params bs).names = params.names := by
  induction bs generalizing params with
  | nil => rfl
  | cons b bs ih =>
    obtain ⟨hb, hbs⟩ := List.forall_mem_cons.mp h
    have hput := Entries.names_put_of_mem hb b.value
    rw [given, ih (by rwa [hput]), hput]

/-- The clause of a condition has the values of the condition's binds, and no others. -/
theorem params_of_ofCondition {c : Condition} {t : TextClause}
    (h : ofCondition refuses c = .ok t) : t.params = c.binds.map Bind.entry := by
  have harity := arity_of_ofCondition h
  have hdistinct : (c.binds.map Bind.name).Nodup := Bind.nodup_names_ofParams 0 c.params
  obtain ⟨rfl, hfree⟩ := Condition.eq_of_ofCondition h
  have hfound : Bind.namesIn c.bound = c.binds.map Bind.name := by
    rw [← BindRule.namesIn_own, Condition.namesIn_eq_of_isFree harity hfree]
  -- The names are found without values first, and then all of them are given one.
  have hnames : (ofChars c.bound).params.names = c.binds.map Bind.name := by
    have hnulls := Entries.names_tabulate (c.binds.map Bind.name) fun _ => Value.null
    unfold ofChars
    rw [hfound]
    show Entries.names (Entries.ofList (Entries.tabulate _ _)) = _
    rw [Entries.ofList_of_nodup (by rwa [hnulls]), hnulls]
  have hgiven : (given (ofChars c.bound).params c.binds).names = c.binds.map Bind.name := by
    rw [names_given fun b hb => by rw [hnames]; exact List.mem_map_of_mem hb, hnames]
  have hentries := Bind.names_map_entry c.binds
  refine Entries.eq_of_get? (hgiven.trans hentries.symm) (hgiven ▸ hdistinct) fun name hname => ?_
  obtain ⟨b, hb, rfl⟩ := List.mem_map.mp (hgiven ▸ hname)
  have hentry : (b.name, b.value) ∈ c.binds.map Bind.entry := List.mem_map_of_mem hb
  rw [get?_given hdistinct hb, Entries.get?_of_mem (hentries ▸ hdistinct) hentry]

end TextClause

namespace Statement

/-- The characters of a clause that may be missing. -/
def charsOf (c : Option TextClause) : List Char :=
  (c.map TextClause.chars).getD []

/-- The names that a rule finds in the texts of a statement, in order. -/
def namesBy (rule : BindRule) (s : Statement) : List String :=
  rule.namesIn (charsOf s.condition) ++ rule.namesIn (charsOf s.order)

/-- Conditions bring the binds of their parameters, and none if there are no conditions. -/
inductive Brings (conditions : Value) : List Bind → Prop where
  /-- There are no conditions. -/
  | nothing (h : conditions.isTrue = false) : Brings conditions []
  /-- The conditions are an expression and its parameters. -/
  | binds {c : Condition} (h : conditions.isTrue = true)
    (hc : Condition.ofItems conditions = .ok c) : Brings conditions c.binds

/-- The text of an order; that of no order is empty. -/
def orderText (order : Value) : String :=
  order.text?.getD ""

variable {v : Value} {brought : List Bind} {t : Option TextClause}

/-- What conditions bring are the binds of some parameters. -/
theorem Brings.exists_params (h : Brings v brought) :
    ∃ params, brought = (Bind.ofParams 0 params).flatten := by
  cases h with
  | nothing h => exact ⟨[], rfl⟩
  | @binds c h hc => exact ⟨c.params, rfl⟩

/-- The clause of conditions has the binds that the conditions bring, whatever the rule, and their
values. -/
theorem brings_of_conditionClause (h : conditionClause refuses v = .ok t) :
    ∃ brought, Brings v brought ∧
      (∀ rule : BindRule, rule.namesIn (charsOf t) = brought.map Bind.name) ∧
        paramsOf t = brought.map Bind.entry := by
  unfold conditionClause at h
  cases hv : v.isTrue with
  | false =>
    rw [hv] at h
    obtain rfl : none = t := Except.ok.inj h
    exact ⟨[], .nothing hv, fun rule => rfl, rfl⟩
  | true =>
    rw [hv, if_pos rfl, map_eq_ok_iff] at h
    obtain ⟨clause, hclause, rfl⟩ := h
    obtain ⟨c, hc, hclause⟩ := bind_eq_ok_iff.mp hclause
    have harity := TextClause.arity_of_ofCondition hclause
    obtain ⟨hchars, hfree⟩ := Condition.eq_of_ofCondition hclause
    have hbound : charsOf (some clause) = c.bound := by rw [hchars]; rfl
    refine ⟨c.binds, .binds hv hc, fun rule => ?_, TextClause.params_of_ofCondition hclause⟩
    rw [hbound, Condition.namesIn_eq_of_isFree harity hfree]

/-- A text that does not count as true is empty. -/
theorem orderText_of_isTrue_eq_false (h : v.isTrue = false) : orderText v = "" := by
  cases v with
  | text s =>
    show s = ""
    simpa [Value.isTrue] using h
  | strategy s => cases h
  | _ => rfl

/-- The clause of an order has the text of the order as it is, and the binds that are found
there. -/
theorem eq_of_orderClause (h : orderClause v = .ok t) :
    charsOf t = (orderText v).toList ∧
      paramsOf t = (TextClause.ofChars (orderText v).toList).params := by
  unfold orderClause at h
  cases hv : v.isTrue with
  | false =>
    rw [hv] at h
    obtain rfl : none = t := Except.ok.inj h
    rw [orderText_of_isTrue_eq_false hv]
    exact ⟨rfl, rfl⟩
  | true =>
    rw [hv, if_pos rfl] at h
    cases htext : v.text? with
    | some s =>
      rw [htext] at h
      obtain rfl : some (TextClause.ofChars s.toList) = t := Except.ok.inj h
      rw [orderText, htext]
      exact ⟨rfl, rfl⟩
    | none =>
      rw [htext] at h
      cases v <;> cases h

/-! ## The statement's own binds -/

/-- The names of the statement's own binds. -/
theorem mem_names_window {limit offset : Option Int} {name : String}
    (h : name ∈ (window limit offset).2.names) : name = "param_1" ∨ name = "param_2" := by
  cases limit <;> cases offset <;> simp [window, Entries.names] at h <;> simp [h]

/-- The statement's own binds have distinct names. -/
theorem nodup_names_window (limit offset : Option Int) :
    (window limit offset).2.names.Nodup := by
  cases limit <;> cases offset <;> simp [window, Entries.names]

/-- No bind of a parameter has the name of one of the statement's own: a digit comes second. -/
theorem ne_of_mem_window {limit offset : Option Int} {params : List Value} {b : Bind}
    {name : String} (hb : b ∈ (Bind.ofParams 0 params).flatten)
    (hname : name ∈ (window limit offset).2.names) : b.name ≠ name := by
  obtain ⟨index, -, cs, hcs, -, htext⟩ := Bind.exists_indexedBy hb
  rintro rfl
  have hsecond (rest : List Char) : 'p' :: (Nat.toDigits 10 index ++ cs) ≠ 'p' :: 'a' :: rest := by
    intro heq
    have hdigits := Bind.takeWhile_numeral (n := index) hcs
    rw [(List.cons.inj heq).2, List.takeWhile_cons_of_neg (by decide)] at hdigits
    exact Nat.toDigits_ne_nil hdigits.symm
  rcases mem_names_window hname with heq | heq
  · exact hsecond _ (htext.symm.trans (congrArg String.toList heq))
  · exact hsecond _ (htext.symm.trans (congrArg String.toList heq))

/-! ## The binds of a statement -/

/-- Sorting changes no look-up. -/
theorem get?_sortedParams (name : String) (params : Entries Value) :
    (sortedParams params).get? name = (Entries.ofList params).get? name :=
  (Entries.get?_perm (List.mergeSort_perm _ _).symm (Entries.nodup_names_ofList params) name).symm

/-- A statement has the binds that its conditions bring, the statement's own, and those that its
order starts. -/
structure IsBoundBy (brought : List Bind) (order : String) (s : Statement) : Prop where
  /-- The names of the binds that are brought are pairwise distinct and other than those of the
  statement's own. -/
  nodup_names : (brought.map Bind.name ++ s.ownParams.names).Nodup
  /-- In the texts every rule finds the binds that are brought, in order, and then what it finds in
  the order as it was given. -/
  namesBy_eq : ∀ rule, s.namesBy rule = brought.map Bind.name ++ rule.namesIn order.toList
  /-- Where the longest run is the name, the texts have no binds but those that are brought exactly
  if the order starts none. -/
  namesBy_longest_iff : s.namesBy .longest = brought.map Bind.name ↔ ¬StartsBind order.toList
  /-- The statement then has the values that are brought and its own, each once, and no others. -/
  perm_params : ¬StartsBind order.toList →
    s.params.Perm (brought.map Bind.entry ++ s.ownParams)
  /-- A bind that the order starts has no value, nor has one that is brought under the same name;
  the statement's own keep theirs. -/
  get?_params : ∀ name, s.params.get? name =
    (s.ownParams.get? name).or
      (if name ∈ Bind.namesIn order.toList then some .null
        else Entries.get? name (brought.map Bind.entry))

section Parts

variable {s : Statement} {order : String}
  (hbrought : ∃ params, brought = (Bind.ofParams 0 params).flatten)
  (hcondition : ∀ rule : BindRule, rule.namesIn (charsOf s.condition) = brought.map Bind.name)
  (hvalues : paramsOf s.condition = brought.map Bind.entry)
  (horder : charsOf s.order = order.toList)
  (hnulls : paramsOf s.order = (TextClause.ofChars order.toList).params)

include hbrought in
/-- What conditions bring has distinct names, none of which is the statement's own. -/
theorem nodup_names_of_brought : (brought.map Bind.name ++ s.ownParams.names).Nodup := by
  obtain ⟨params, rfl⟩ := hbrought
  refine List.Nodup.append (Bind.nodup_names_ofParams 0 params)
    (nodup_names_window s.limit s.offset) fun name hname hown => ?_
  obtain ⟨b, hb, rfl⟩ := List.mem_map.mp hname
  exact ne_of_mem_window hb hown rfl

include hbrought hvalues hnulls in
/-- An order that starts no bind leaves the values that are brought and the statement's own. -/
theorem perm_params_of_not_startsBind (h : ¬StartsBind order.toList) :
    s.params.Perm (brought.map Bind.entry ++ s.ownParams) := by
  have hnone : Bind.namesIn order.toList = [] :=
    List.eq_nil_iff_forall_not_mem.mpr fun _ hname => h (BindRule.startsBind_of_mem hname)
  have htexts : s.textParams = brought.map Bind.entry := by
    unfold textParams
    rw [hvalues, hnulls, TextClause.ofChars, hnone]
    exact List.append_nil _
  have hdistinct : (Entries.names (brought.map Bind.entry ++ s.ownParams)).Nodup := by
    rw [Entries.names_append, Bind.names_map_entry]
    exact nodup_names_of_brought hbrought
  unfold params sortedParams
  rw [htexts, Entries.ofList_of_nodup hdistinct]
  exact List.mergeSort_perm _ _

include hbrought hvalues hnulls in
/-- What a look-up finds among the values of a statement: of its own, of its order and of what is
brought, the first that has the name. -/
theorem get?_params_of_parts (name : String) :
    s.params.get? name = (s.ownParams.get? name).or
      (if name ∈ Bind.namesIn order.toList then some .null
        else Entries.get? name (brought.map Bind.entry)) := by
  have hdistinct := nodup_names_of_brought (s := s) hbrought
  have hown : Entries.ofList s.ownParams = s.ownParams :=
    Entries.ofList_of_nodup (nodup_names_window _ _)
  have hentries : Entries.ofList (brought.map Bind.entry) = brought.map Bind.entry := by
    refine Entries.ofList_of_nodup ?_
    rw [Bind.names_map_entry]
    exact (List.nodup_append.mp hdistinct).1
  have horder : Entries.ofList (TextClause.ofChars order.toList).params =
      (TextClause.ofChars order.toList).params :=
    Entries.ofList_of_nodup (Entries.nodup_names_ofList _)
  unfold params textParams
  rw [get?_sortedParams, Entries.get?_ofList_append, Entries.get?_ofList_append, hvalues, hnulls,
    hown, hentries, horder, TextClause.get?_ofChars]
  split <;> rfl

include hbrought hcondition hvalues horder hnulls in
/-- A statement is bound by its parts. -/
theorem isBoundBy_of_parts : s.IsBoundBy brought order := by
  have hnames (rule : BindRule) :
      s.namesBy rule = brought.map Bind.name ++ rule.namesIn order.toList := by
    unfold namesBy
    rw [hcondition, horder]
  constructor
  case nodup_names => exact nodup_names_of_brought hbrought
  case namesBy_eq => exact hnames
  case namesBy_longest_iff =>
    rw [hnames, List.append_right_eq_self, BindRule.namesIn_longest_eq_nil_iff]
  case perm_params => exact perm_params_of_not_startsBind hbrought hvalues hnulls
  case get?_params => exact get?_params_of_parts hbrought hvalues hnulls

end Parts

/-- The binds of each statement are those that its conditions bring, those for the numbers of
records, and those that the order starts. -/
theorem build_isBoundBy {recordType : Value} {named : Entries Value} {s : Statement}
    (h : build refuses recordType named = .ok s) :
    ∃ brought, Brings (argument named "conditions") brought ∧
      count? (argument named "limit") = .ok s.limit ∧
      count? (argument named "offset") = .ok s.offset ∧
      s.IsBoundBy brought (orderText (argument named "order")) := by
  unfold build at h
  obtain ⟨-, -, h⟩ := bind_eq_ok_iff.mp h
  obtain ⟨source, -, h⟩ := bind_eq_ok_iff.mp h
  obtain ⟨condition, hcondition, h⟩ := bind_eq_ok_iff.mp h
  obtain ⟨order, horder, h⟩ := bind_eq_ok_iff.mp h
  obtain ⟨loaders, -, h⟩ := bind_eq_ok_iff.mp h
  obtain ⟨limit, hlimit, h⟩ := bind_eq_ok_iff.mp h
  obtain ⟨offset, hoffset, h⟩ := bind_eq_ok_iff.mp h
  obtain rfl := Except.ok.inj h
  obtain ⟨brought, hbrings, hnames, hvalues⟩ := brings_of_conditionClause hcondition
  obtain ⟨hchars, hnulls⟩ := eq_of_orderClause horder
  exact ⟨brought, hbrings, hlimit, hoffset,
    isBoundBy_of_parts hbrings.exists_params hnames hvalues hchars hnulls⟩

/-! ## Statements about people -/

/-- People are kept in a table. -/
def peopleModel : Model :=
  ⟨"Person", "people", [("id", "id"), ("name", "name"), ("age", "age")], []⟩

/-- Asks for some people by conditions and an order with colons, and for a part of them. -/
def namedPeople : Entries Value :=
  [("conditions", .tuple [.text "name IN (?) AND age > ? AND name <> ':p0'",
      .list [.text "Tom", .text "Ann"], .int 3]),
    ("order", .text "age::text DESC"), ("limit", .int 10), ("offset", .int 20)]

/-- No colon of that order starts a bind, so the statement has the binds of the parameters and of
the numbers only. -/
theorem namedPeople_isBoundBy :
    ∃ s, build Value.isModel (.model peopleModel) namedPeople = .ok s ∧
      ¬StartsBind "age::text DESC".toList ∧
      ∃ brought, Brings (argument namedPeople "conditions") brought ∧
        count? (argument namedPeople "limit") = .ok s.limit ∧
        count? (argument namedPeople "offset") = .ok s.offset ∧
        s.IsBoundBy brought (orderText (argument namedPeople "order")) := by
  have hstarts : ¬StartsBind "age::text DESC".toList :=
    BindRule.namesIn_longest_eq_nil_iff.mp (by decide)
  obtain ⟨s, hs⟩ : ∃ s, build Value.isModel (.model peopleModel) namedPeople = .ok s := ⟨_, rfl⟩
  exact ⟨s, hs, hstarts, build_isBoundBy hs⟩

/-- Asks for the people of a name in an order that compares the name with a quoted text. -/
def quotedName : Entries Value :=
  [("conditions", .tuple [.text "name = ?", .text "Tom"]),
    ("order", .text "CASE name WHEN ':p0' THEN 0 ELSE 1 END")]

/-- The quoted text starts a bind of the parameter's name, and the parameter's value is gone. -/
theorem quotedName_overrides :
    ∃ s, build Value.isModel (.model peopleModel) quotedName = .ok s ∧
      Brings (argument quotedName "conditions") [⟨"p0", .text "Tom"⟩] ∧
      s.namesBy .longest = ["p0", "p0"] ∧ s.params = [("p0", .null)] := by
  have hcondition : Condition.ofItems (argument quotedName "conditions") =
      .ok ⟨"name = ?", [.text "Tom"]⟩ := rfl
  have hbrings : Brings (argument quotedName "conditions") [⟨"p0", .text "Tom"⟩] :=
    .binds rfl hcondition
  -- Of the two values under one name, that of the order comes later.
  have hparams : sortedParams [("p0", Value.text "Tom"), ("p0", .null)] = [("p0", .null)] :=
    List.mergeSort_singleton _
  exact ⟨_, rfl, hbrings, by decide, hparams⟩

end Statement

end Searchable
