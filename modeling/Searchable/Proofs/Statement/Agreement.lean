import Searchable.Proofs.Schema.Spaced
import Searchable.Proofs.Statement.Supply

/-!
# Compiled conditions become clauses

The two ends of a search agree on what a condition is: what `Schema.compile` results in,
`TextClause.ofCondition` can bind, with the parameters in their places. `Agrees` says what that
means, and leaves two things to the caller: a further condition has to have a parameter for each
placeholder, and its placeholders have to stand apart. Every value is compiled, also one that is
refused when it is to be bound, as a record type is (`Schema.recordType_refused`).
-/

namespace Searchable

variable {refuses : Value → Bool}

/-- The values that a parameter stands for: its items, or itself. -/
def Value.eachBound (v : Value) : List Value :=
  v.several?.getD [v]

namespace Bind

/-- The values of the binds of some items are the items. -/
theorem map_value_ofItems (index item : Nat) (vs : List Value) :
    (ofItems index item vs).map value = vs := by
  induction vs generalizing item with
  | nil => rfl
  | cons v vs ih => rw [ofItems, List.map_cons, ih]

/-- The values of the binds of a parameter are those that it stands for. -/
theorem map_value_ofParam (index : Nat) (v : Value) :
    (ofParam index v).map value = v.eachBound := by
  unfold ofParam Value.eachBound
  cases v.several? with
  | none => rfl
  | some items => exact map_value_ofItems index 0 items

/-- The values of the binds of each of some parameters are those that the parameter stands for. -/
theorem map_values_ofParams (first : Nat) (vs : List Value) :
    (ofParams first vs).map (List.map value) = vs.map Value.eachBound := by
  induction vs generalizing first with
  | nil => rfl
  | cons v vs ih => rw [ofParams, List.map_cons, map_value_ofParam, ih, List.map_cons]

/-- The values of all binds are those that the parameters stand for, in order. -/
theorem map_value_flatten_ofParams (first : Nat) (vs : List Value) :
    (ofParams first vs).flatten.map value = vs.flatMap Value.eachBound := by
  rw [List.map_flatten, map_values_ofParams, List.flatMap_def]

end Bind

/-- A condition that is handed on as its expression and parameters is read back. -/
theorem TextClause.ofValue_toValues (c : Condition) :
    ofValue refuses (.tuple c.toValues) = ofCondition refuses c := by
  rfl

/-- A condition can be bound as it was compiled, given the part of it that the caller added, if
any, as far as its values are taken. -/
structure Agrees (refuses : Value → Bool) (r : Condition) (added : Option Condition) : Prop where
  /-- The condition is refused for the number of its parameters exactly when the caller's part has
  another number of placeholders than parameters. -/
  arity : ∀ m n, TextClause.ofValue refuses (.tuple r.toValues) = .error (.conditionArity m n) ↔
    m = placeholders r.expression ∧ n = r.params.length ∧
      ∃ f ∈ added, placeholders f.expression ≠ f.params.length
  /-- Otherwise, if the placeholders of the caller's part stand apart, the condition becomes a
  clause exactly when each value that a parameter stands for is taken. -/
  accepted : (∀ f ∈ added, placeholders f.expression = f.params.length ∧ IsSpaced f.expression) →
    ((∃ t, TextClause.ofValue refuses (.tuple r.toValues) = .ok t) ↔
      ∀ v ∈ r.params.flatMap Value.eachBound, refuses v = false)
  /-- Where it does not, one of these values is what is reported. -/
  refused : (∀ f ∈ added, placeholders f.expression = f.params.length ∧ IsSpaced f.expression) →
    ∀ e, TextClause.ofValue refuses (.tuple r.toValues) = .error e →
      ∃ v ∈ r.params.flatMap Value.eachBound, refuses v = true ∧ e = v.misusedAs .notBindable
  /-- In the clause every rule finds, in order, binds with the values that the parameters stand
  for. -/
  values : ∀ t, TextClause.ofValue refuses (.tuple r.toValues) = .ok t → ∀ rule : BindRule,
    (rule.namesIn t.chars).map t.params.get? = (r.params.flatMap Value.eachBound).map some
  /-- The clause has a site for each parameter, at which one that stands for nothing is null. -/
  sites : ∀ t, TextClause.ofValue refuses (.tuple r.toValues) = .ok t →
    (r.sites.map fun site => site.binds.map Bind.value) = r.params.map Value.eachBound ∧
      ∀ site ∈ r.sites, t.chars = site.text ∧
        (site.binds = [] → t.chars = site.left ++ "NULL".toList ++ site.right)

namespace Condition

variable {c : Condition}

/-- The values of the binds are those that the parameters stand for. -/
theorem forall_binds_iff {p : Value → Prop} :
    (∀ b ∈ c.binds, p b.value) ↔ ∀ v ∈ c.params.flatMap Value.eachBound, p v := by
  rw [← Bind.map_value_flatten_ofParams 0, List.forall_mem_map]
  rfl

/-- The value of a bind is one of them. -/
theorem value_mem_of_mem_binds {b : Bind} (h : b ∈ c.binds) :
    b.value ∈ c.params.flatMap Value.eachBound :=
  forall_binds_iff.mpr (fun _ hv => hv) b h

/-- A condition whose sites are free is only refused for a value that is not taken. -/
theorem exists_misused_of_isFree {e : Misuse}
    (harity : placeholders c.expression = c.params.length) (hfree : ∀ s ∈ c.sites, s.IsFree)
    (h : TextClause.ofCondition refuses c = .error e) :
    ∃ b ∈ c.binds, refuses b.value = true ∧ e = b.value.misusedAs .notBindable := by
  cases hcheck : c.binds.forM (Bind.check refuses) with
  | error f =>
    rw [TextClause.ofCondition_of_arity harity, hcheck] at h
    obtain rfl : f = e := Except.error.inj h
    exact TextClause.exists_misused hcheck
  | ok u =>
    have hvalues := TextClause.forM_check_eq_ok_iff.mp hcheck
    obtain ⟨t, ht⟩ := (exists_ofCondition_iff harity).mpr ⟨hvalues, hfree⟩
    cases h.symm.trans ht

/-- In the clause of a condition every rule finds the values of the binds in order. -/
theorem values_of_ofCondition {t : TextClause} (h : TextClause.ofCondition refuses c = .ok t)
    (rule : BindRule) :
    (rule.namesIn t.chars).map t.params.get? = (c.params.flatMap Value.eachBound).map some := by
  have harity := TextClause.arity_of_ofCondition h
  obtain ⟨rfl, hfree⟩ := eq_of_ofCondition h
  rw [namesIn_eq_of_isFree harity hfree rule, ← Bind.map_value_flatten_ofParams 0, List.map_map,
    List.map_map]
  exact List.map_congr_left fun b hb =>
    TextClause.get?_given (Bind.nodup_names_ofParams 0 c.params) hb

/-- The sites in the clause of a condition have the values of one parameter each. -/
theorem values_of_sites (harity : placeholders c.expression = c.params.length) :
    (c.sites.map fun site => site.binds.map Bind.value) = c.params.map Value.eachBound := by
  rw [← Bind.map_values_ofParams 0, ← map_binds_sites harity, List.map_map]
  rfl

/-- The condition of spaced clauses and of what a caller adds can be bound as it is. -/
theorem agrees_ofClauses {cs : List Clause} (further : Option Condition)
    (hcs : ∀ c ∈ cs, IsSpaced c.text) :
    Agrees refuses (ofClauses cs further) (further.filter fun c => !c.isEmpty) where
  arity m n := by
    rw [TextClause.ofValue_toValues, TextClause.ofCondition_eq_conditionArity_iff, Ne,
      arity_ofClauses]
    simp only [not_forall, exists_prop]
  accepted hadded := by
    -- What the strategies wrote is aligned and spaced, so only the added part decides.
    have harity := (arity_ofClauses cs further).mpr fun f hf => (hadded f hf).1
    have hspaced := isSpaced_ofClauses hcs fun f hf => (hadded f hf).2
    rw [TextClause.ofValue_toValues, exists_ofCondition_iff harity, ← forall_binds_iff]
    exact and_iff_left (isFree_of_isSpaced harity hspaced)
  refused hadded e he := by
    have harity := (arity_ofClauses cs further).mpr fun f hf => (hadded f hf).1
    have hspaced := isSpaced_ofClauses hcs fun f hf => (hadded f hf).2
    rw [TextClause.ofValue_toValues] at he
    obtain ⟨b, hb, hvalue, rfl⟩ := exists_misused_of_isFree harity
      (isFree_of_isSpaced harity hspaced) he
    exact ⟨b.value, value_mem_of_mem_binds hb, hvalue, rfl⟩
  values t ht := by
    rw [TextClause.ofValue_toValues] at ht
    exact values_of_ofCondition ht
  sites t ht := by
    rw [TextClause.ofValue_toValues] at ht
    refine ⟨values_of_sites (TextClause.arity_of_ofCondition ht), fun site hsite => ?_⟩
    obtain ⟨rfl, -⟩ := eq_of_ofCondition ht
    have htext := text_of_mem_sites hsite
    refine ⟨htext.symm, fun hnone => ?_⟩
    rw [← htext, Site.text, hnone]
    rfl

end Condition

namespace Schema

variable {s : Schema}

/-- A condition that is compiled can be bound as it was compiled, whichever values are taken. -/
theorem agrees_of_compile (refuses : Value → Bool) {criteria : Criteria} {additional : Value}
    {r : Condition} (h : s.compile criteria additional = .ok r) :
    ∃ further, Condition.ofAdditional additional = .ok further ∧
      Agrees refuses r (further.filter fun c => !c.isEmpty) := by
  obtain ⟨cs, further, hcs, hfurther, rfl⟩ := exists_clauses h
  exact ⟨further, hfurther, Condition.agrees_ofClauses further hcs⟩

/-- A schema with a target that looks like an escaped bind. -/
def labelled : Schema :=
  ⟨"Person", [("name", .matchFull), ("area", .including)], [], .null,
    [("name", .text "\\:p0 || ':p1'")], .text "find_all"⟩

/-- A condition over such a target agrees with its clause, as does what the caller adds to it. -/
theorem labelled_agrees :
    labelled.compile [(.text "area", .list [.int 1, .int 2]), (.text "name", .text "Tom")]
        (.tuple [.text "age > ?", .int 3]) =
      .ok ⟨"((area) IN (?)) AND ((\\:p0 || ':p1') = ?) AND (age > ?)",
        [.list [.int 1, .int 2], .text "Tom", .int 3]⟩ ∧
      ∃ further, Condition.ofAdditional (.tuple [.text "age > ?", .int 3]) = .ok further ∧
        Agrees Value.isModel ⟨"((area) IN (?)) AND ((\\:p0 || ':p1') = ?) AND (age > ?)",
          [.list [.int 1, .int 2], .text "Tom", .int 3]⟩ (further.filter fun c => !c.isEmpty) := by
  have h : labelled.compile
      [(.text "area", .list [.int 1, .int 2]), (.text "name", .text "Tom")]
      (.tuple [.text "age > ?", .int 3]) =
        .ok ⟨"((area) IN (?)) AND ((\\:p0 || ':p1') = ?) AND (age > ?)",
          [.list [.int 1, .int 2], .text "Tom", .int 3]⟩ := by
    rfl
  exact ⟨h, agrees_of_compile Value.isModel h⟩

/-- A record type that is searched by name. -/
def personModel : Model :=
  ⟨"PersonModel", "people", [("id", "id"), ("name", "name")], ["pets"]⟩

/-- The schema of that record type. -/
def byName : Schema :=
  ⟨"PersonModel", [("name", .matchFull)], [], .null, [], .text "find_all"⟩

/-- A record type is compiled as a value like any other, and refused when it is to be bound by a
library that takes none. -/
theorem recordType_refused :
    byName.compile [(.text "name", .model personModel)] .null =
        .ok ⟨"((name) = ?)", [.model personModel]⟩ ∧
      TextClause.ofValue Value.isModel
          (.tuple (Condition.toValues ⟨"((name) = ?)", [.model personModel]⟩)) =
        .error ((Value.model personModel).misusedAs .notBindable) := by
  refine ⟨by rfl, ?_⟩
  rw [TextClause.ofValue_toValues, TextClause.ofCondition_of_arity (by decide)]
  rfl

end Schema

end Searchable
