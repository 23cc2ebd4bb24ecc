import Searchable.Proofs.Chains
import Searchable.Proofs.Lookup
import Searchable.Store

/-!
# The arguments of a query on their way

A query is written as an inquiry, compiled to a request, and its options are passed on to a finder.
Nothing of them is lost or taken for something else: an inquiry is written for one query, whatever
operation it is for (`Inquiry.query_cases`), a request has the options of its query
(`Registry.of_compile`), and a finder reads the parts of a request back (`Arguments.ofNamed_named`).
Each of these rests on names that an option cannot have.
-/

namespace Searchable

namespace Signature

variable {s : Signature} {filled : Nat}

/-- Where arguments of any name are taken, the one that is refused is the first for a parameter that
is filled. -/
theorem checkNames_of_takesMore (h : s.takesMore = true) (names : List String) :
    s.checkNames filled names =
      match names.find? (s.placed.take filled).contains with
      | some name => .error (.repeatedArgument s.operation name)
      | none => .ok () := by
  induction names with
  | nil => rfl
  | cons name names ih =>
    rw [checkNames, List.find?_cons]
    cases (s.placed.take filled).contains name with
    | true => rfl
    | false => simpa [knows, h] using ih

/-- Where also all required parameters are filled by place, nothing else is refused. -/
theorem check_of_takesMore (h : s.takesMore = true) (hlow : s.required.length ≤ filled)
    (hhigh : filled ≤ s.placed.length) (names : List String) :
    s.check filled names =
      match names.find? (s.placed.take filled).contains with
      | some name => .error (.repeatedArgument s.operation name)
      | none => .ok () := by
  have hmissing : s.missing filled names = [] := by
    rw [missing, List.drop_eq_nil_of_le hlow]
    rfl
  rw [check, checkNames_of_takesMore h, hmissing]
  cases names.find? (s.placed.take filled).contains with
  | some name => rfl
  | none =>
    rw [if_neg (Nat.not_lt.2 hhigh)]
    rfl

end Signature

namespace Inquiry

/-- The parameters that an inquiry fills by place. -/
def filled (i : Inquiry) : List String :=
  if i.criteria.isSome then [receiver, "record_type", criteriaName] else [receiver, "record_type"]

/-- An inquiry fits an operation on queries if it gives nothing by name that it gives by place. -/
theorem check_signature (i : Inquiry) (operation : String) :
    (signature operation).check (if i.criteria.isSome then 3 else 2) i.named.names =
      match i.named.names.find? i.filled.contains with
      | some name => .error (.repeatedArgument ("SearchService." ++ operation) name)
      | none => .ok () := by
  cases h : i.criteria.isSome with
  | true =>
    have hfilled : i.filled = [receiver, "record_type", criteriaName] := by
      rw [filled, h]
      rfl
    rw [hfilled]
    exact (signature operation).check_of_takesMore rfl
      (show 2 ≤ 3 by decide) (show 3 ≤ 3 by decide) i.named.names
  | false =>
    have hfilled : i.filled = [receiver, "record_type"] := by
      rw [filled, h]
      rfl
    rw [hfilled]
    exact (signature operation).check_of_takesMore rfl
      (show 2 ≤ 2 by decide) (show 2 ≤ 3 by decide) i.named.names

/-- An inquiry is refused by each operation on queries, in the same way but for its name, or it is
written for the same query, whose options have none of the names that are taken. -/
theorem query_cases (i : Inquiry) :
    (∃ name, ∀ operation,
      i.query operation = .error (.repeatedArgument ("SearchService." ++ operation) name)) ∨
    ∃ q, (∀ operation, i.query operation = .ok q) ∧ q.recordType = i.recordType ∧
      ∀ name ∈ q.options.names, name ∉ [receiver, "record_type", "order"] := by
  cases hfind : i.named.names.find? i.filled.contains with
  | some name =>
    refine .inl ⟨name, fun operation => ?_⟩
    rw [query, check_signature, hfind]
    rfl
  | none =>
    have hquery (operation : String) : i.query operation = .ok ⟨i.recordType,
        i.criteria.getD (i.argument criteriaName), i.argument "order",
        i.argument "additional_conditions",
        i.named.filter fun e => !(criteriaName :: namedParameters).contains e.1⟩ := by
      rw [query, check_signature, hfind]
      rfl
    refine .inr ⟨_, hquery, rfl, fun name hname => ?_⟩
    obtain ⟨e, he, rfl⟩ := List.mem_map.1 hname
    obtain ⟨hgiven, hkept⟩ := List.mem_filter.1 he
    have hfree : e.1 ∉ i.filled := by
      have := List.find?_eq_none.1 hfind e.1 (List.mem_map_of_mem hgiven)
      simpa using this
    have hrequired : e.1 ≠ receiver ∧ e.1 ≠ "record_type" := by
      unfold filled at hfree
      split at hfree <;> simp_all
    have horder : e.1 ≠ "order" := by
      intro h
      rw [h] at hkept
      exact absurd hkept (by decide)
    simp [hrequired, horder]

end Inquiry

/-- Options are accepted if the search sets none of them itself. -/
theorem checkOptions_eq_ok_iff {options : Entries Value} :
    checkOptions options = .ok () ↔ ∀ name ∈ options.names, name ∉ reservedOptions := by
  have hnone : reservedOptions.find? options.contains = none ↔
      ∀ name ∈ options.names, name ∉ reservedOptions := by
    rw [List.find?_eq_none]
    simp only [Entries.contains_iff]
    exact ⟨fun h name hn hr => h name hr hn, fun h name hr hn => h name hn hr⟩
  rw [← hnone, checkOptions]
  cases reservedOptions.find? options.contains <;> simp

namespace Registry

variable {r : Registry} {q : Query} {x : Request}

/-- A query that compiles passes its options on, none of which the search sets itself, and has a
schema. -/
theorem of_compile (h : (r.compile q).answer = .ok x) :
    x.options = q.options ∧ (∀ name ∈ q.options.names, name ∉ reservedOptions) ∧
      ∃ s, r.get q.recordType = .ok s := by
  unfold compile at h
  cases hp : r.prepare q with
  | error e =>
    rw [hp] at h
    cases h
  | ok p =>
    rw [hp] at h
    obtain ⟨order, -, hx⟩ := bind_eq_ok_iff.1 h
    obtain rfl := Except.ok.inj hx
    obtain ⟨_, hoptions, hp⟩ := bind_eq_ok_iff.1 hp
    obtain ⟨s, hs, -⟩ := bind_eq_ok_iff.1 hp
    exact ⟨rfl, checkOptions_eq_ok_iff.1 hoptions, s, hs⟩

/-- Where a query compiles whose options avoid the names that are taken, the options of its request
have none of the names that a finder knows. -/
theorem free_options_of_compile (h : (r.compile q).answer = .ok x)
    (htaken : ∀ name ∈ q.options.names, name ∉ [receiver, "record_type", "order"]) :
    (∀ name ∈ x.options.names, name ∉ [receiver, "record_type"]) ∧
      ∀ name ∈ x.options.names, name ∉ Arguments.commonNames := by
  obtain ⟨hoptions, hreserved, -⟩ := of_compile h
  -- Of the arguments that every finder takes by name, the search sets two itself, and the third is
  -- one of its own parameters.
  have hcommon : ∀ name ∈ Arguments.commonNames,
      name ∈ reservedOptions ∨ name ∈ [receiver, "record_type", "order"] := by decide
  have hplaced : [receiver, "record_type"] ⊆ [receiver, "record_type", "order"] := by decide
  rw [hoptions]
  constructor
  · exact fun name hname hmem => htaken name hname (hplaced hmem)
  · intro name hname hmem
    rcases hcommon name hmem with hset | hown
    · exact hreserved name hname hset
    · exact htaken name hname hown

end Registry

/-- The arguments that a request stands for, as a store in memory keeps them. -/
def Request.arguments (r : Request) : Arguments :=
  ⟨(r.conditions.map Value.tuple).getD .null, (r.order.map Value.text).getD .null, r.related,
    r.options⟩

/-- Arguments that are passed by name arrive as they are, unless an option has the name of one. -/
theorem Arguments.ofNamed_named {r : Request}
    (h : ∀ name ∈ r.options.names, name ∉ commonNames) : ofNamed r.named = r.arguments := by
  have hoptions : (r.named.filter fun e => !commonNames.contains e.1) = r.options := by
    have hkept : (r.options.filter fun e => !commonNames.contains e.1) = r.options := by
      rw [List.filter_eq_self]
      intro e he
      have := h e.1 (List.mem_map_of_mem he)
      simpa using this
    rw [Request.named, List.filter_append, hkept]
    rfl
  unfold ofNamed
  rw [hoptions]
  rfl

end Searchable
