import Searchable.Proofs.Registry.Acceptance
import Searchable.Proofs.Request.Arguments
import Searchable.Session

/-!
# The stages of a search

A search passes seven stages before its finder is called, and each may refuse it. `Session.Refuses`
says for which reason and how, in terms of what the stage is about alone, whatever is wrong
elsewhere. Up to the finder, which is looked up last, there is one step of the search for each
stage. It fails exactly when the stage refuses, and with that failure: five steps read the parts of
the query, and one joins the tokens of the order.
-/

namespace Searchable

/-- The stages that a search passes. -/
inductive Stage where
  /-- The options are looked through for those that the search itself sets. -/
  | options
  /-- The schema of the record type is looked up. -/
  | schema
  /-- The criteria are compiled. -/
  | criteria
  /-- The further condition is read. -/
  | additional
  /-- The order is read. -/
  | order
  /-- The tokens of the order are joined. -/
  | joining
  /-- The finder is looked up. -/
  | finder
  deriving DecidableEq, Repr

/-- The place of a stage among all. -/
def Stage.number : Stage → Nat
  | options => 0
  | schema => 1
  | criteria => 2
  | additional => 3
  | order => 4
  | joining => 5
  | finder => 6

/-- The condition of criteria as they are written, without a further one. -/
def Schema.compileAlone (x : Schema) (criteria : Value) : Except Failure Condition := do
  let c ← (Criteria.ofValue criteria).mapError .misuse
  x.compile c .null

namespace Session

/-- Why a stage refuses a search, and with what failure. -/
inductive Refuses (s : Session) (q : Query) : Stage → Failure → Prop where
  /-- An option has the name under which the search gives the condition. -/
  | conditions (h : "conditions" ∈ q.options.names) :
    Refuses s q .options (.fault (.ofCause (.argumentConflict (.text "conditions"))))
  /-- None has, and an option has the name under which the search gives what to load. -/
  | loading (hconditions : "conditions" ∉ q.options.names) (h : "include" ∈ q.options.names) :
    Refuses s q .options (.fault (.ofCause (.argumentConflict (.text "include"))))
  /-- The record type cannot be a key. -/
  | unhashable (kind : String) (h : q.recordType.unhashable? = some kind) :
    Refuses s q .schema (.misuse (.unhashable kind))
  /-- The record type is not registered. -/
  | unregistered (name : String) (h : s.registry.contains q.recordType = .ok false)
      (hname : s.registry.inspector.typeName q.recordType = .ok name) :
    Refuses s q .schema (.fault (.ofCause (.schemaNotRegistered (.text name))))
  /-- The record type is not registered, and the inspector has no name for it. -/
  | nameless (m : Misuse) (h : s.registry.contains q.recordType = .ok false)
      (hname : s.registry.inspector.typeName q.recordType = .error m) :
    Refuses s q .schema (.misuse m)
  /-- The criteria do not compile, whatever is added to them. -/
  | criteria (x : Schema) (e : Failure) (hx : s.registry.get q.recordType = .ok x)
      (h : x.compileAlone q.criteria = .error e) : Refuses s q .criteria e
  /-- The further condition has no items. -/
  | closed (hblank : q.additional.isBlank = false) (htext : q.additional.text? = none)
      (h : q.additional.items? = none) :
    Refuses s q .additional (.misuse (.notUnpackable q.additional.kind))
  /-- It could have items and has none, which shows only as they are taken. -/
  | drained (hblank : q.additional.isBlank = false) (htext : q.additional.text? = none)
      (h : q.additional.items? = some []) :
    Refuses s q .additional (.misuse .nothingToUnpack)
  /-- Its first item has no text, and so is no expression. -/
  | inexpressible (first : Value) (params : List Value) (m : Misuse)
      (hblank : q.additional.isBlank = false) (htext : q.additional.text? = none)
      (h : q.additional.items? = some (first :: params)) (hfirst : first.written = .error m) :
    Refuses s q .additional (.misuse m)
  /-- The order is neither left out nor a text nor other items. -/
  | order (hgiven : q.order ≠ .null) (h : q.order.items? = none) :
    Refuses s q .order (.misuse (.notIterable q.order.kind))
  /-- A token of the order that holds is no text, and those before it are. -/
  | token (x : Schema) (before after : List Value) (v : Value)
      (hx : s.registry.get q.recordType = .ok x)
      (h : x.orderFor q.order = .ok (before ++ v :: after))
      (hbefore : ∀ b ∈ before, b.text?.isSome = true) (hv : v.text? = none) :
    Refuses s q .joining (.misuse (.notJoinable before.length v.kind))
  /-- The finder of the schema is the name of nothing that can be called. -/
  | missing (x : Schema) (name : String) (hx : s.registry.get q.recordType = .ok x)
      (hname : x.finder.text? = some name) (h : s.store.service? name = .ok none) :
    Refuses s q .finder
      (.fault (.ofCause (.finderNotFound x.finder (.text s.store.kind.name))))

end Session

/-- Options are refused for the first of the names that the search itself sets. -/
theorem checkOptions_eq_error_iff {s : Session} {q : Query} {e : Failure} :
    checkOptions q.options = .error e ↔ s.Refuses q .options e := by
  have hcheck : checkOptions q.options =
      if "conditions" ∈ q.options.names then
        .error (.fault (.ofCause (.argumentConflict (.text "conditions"))))
      else if "include" ∈ q.options.names then
        .error (.fault (.ofCause (.argumentConflict (.text "include"))))
      else .ok () := by
    simp only [← Entries.contains_iff]
    rw [checkOptions, reservedOptions, List.find?_cons, List.find?_cons, List.find?_nil]
    cases q.options.contains "conditions" with
    | true => rfl
    | false => cases q.options.contains "include" <;> rfl
  rw [hcheck]
  constructor
  · intro h
    split at h
    · obtain rfl := Except.error.inj h
      exact .conditions ‹_›
    · split at h
      · obtain rfl := Except.error.inj h
        exact .loading ‹_› ‹_›
      · cases h
  · intro h
    cases h with
    | conditions h => rw [if_pos h]
    | loading hconditions h => rw [if_neg hconditions, if_pos h]

/-- Looking up a schema is refused for a record type that cannot be a key or is not registered. -/
theorem Registry.get_eq_error_iff {s : Session} {q : Query} {e : Failure} :
    s.registry.get q.recordType = .error e ↔ s.Refuses q .schema e := by
  constructor
  · intro h
    have hcontains : q.recordType.unhashable? = none → s.registry.find? q.recordType = none →
        s.registry.contains q.recordType = .ok false := by
      intro hkey hfind
      rw [contains, checkKey, hkey, hfind]
      rfl
    unfold get checkKey at h
    cases hkey : q.recordType.unhashable? with
    | some kind =>
      rw [hkey] at h
      obtain rfl := Except.error.inj h
      exact .unhashable kind hkey
    | none =>
      rw [hkey] at h
      cases hfind : s.registry.find? q.recordType with
      | some x =>
        rw [hfind] at h
        cases h
      | none =>
        rw [hfind] at h
        cases hname : s.registry.inspector.typeName q.recordType with
        | error m =>
          rw [hname] at h
          obtain rfl := Except.error.inj h
          exact .nameless m (hcontains hkey hfind) hname
        | ok name =>
          rw [hname] at h
          obtain rfl := Except.error.inj h
          exact .unregistered name (hcontains hkey hfind) hname
  · intro h
    cases h with
    | unhashable kind h =>
      rw [get, checkKey, h]
      rfl
    | unregistered name h hname =>
      obtain ⟨hkey, hfind⟩ := of_contains_eq_false h
      rw [get, checkKey, hkey, hfind, hname]
      rfl
    | nameless m h hname =>
      obtain ⟨hkey, hfind⟩ := of_contains_eq_false h
      rw [get, checkKey, hkey, hfind, hname]
      rfl

/-- A further condition is refused if it has no items to take an expression from, or if the first
is none. -/
theorem Condition.ofAdditional_eq_error_iff {s : Session} {q : Query} {m : Misuse} :
    ofAdditional q.additional = .error m ↔ s.Refuses q .additional (.misuse m) := by
  constructor
  · intro h
    unfold ofAdditional at h
    split at h
    · cases h
    · rename_i hblank
      have hblank : q.additional.isBlank = false := Bool.eq_false_iff.2 hblank
      split at h
      · cases h
      · rename_i htext
        have htext : q.additional.text? = none := Option.not_isSome_iff_eq_none.1 htext
        have h := map_eq_error_iff.1 h
        unfold ofItems at h
        split at h
        · obtain rfl := Except.error.inj h
          exact .closed hblank htext ‹_›
        · obtain rfl := Except.error.inj h
          exact .drained hblank htext ‹_›
        · exact .inexpressible _ _ m hblank htext ‹_› (map_eq_error_iff.1 h)
  · intro h
    have hitems (hblank : q.additional.isBlank = false) (htext : q.additional.text? = none) :
        ofAdditional q.additional = (ofItems q.additional).map some := by
      rw [ofAdditional, hblank, htext]
      rfl
    cases h with
    | closed hblank htext h =>
      rw [hitems hblank htext, ofItems, h]
      rfl
    | drained hblank htext h =>
      rw [hitems hblank htext, ofItems, h]
      rfl
    | inexpressible first params m hblank htext h hfirst =>
      rw [hitems hblank htext, ofItems, h]
      simp only [hfirst]
      rfl

/-- An order that is given is the one that holds. -/
theorem Schema.orderFor_of_given (x : Schema) {v : Value} (h : v ≠ .null) :
    x.orderFor v = Order.tokens v := by
  cases v <;> first | rfl | exact absurd rfl h

/-- An order is refused as it is read if it is something and has no items. -/
theorem Schema.orderFor_eq_error_iff {s : Session} {q : Query} {x : Schema} {m : Misuse} :
    x.orderFor q.order = .error m ↔ s.Refuses q .order (.misuse m) := by
  constructor
  · intro h
    have hgiven : q.order ≠ .null := by
      intro hnull
      rw [hnull] at h
      cases h
    rw [x.orderFor_of_given hgiven] at h
    obtain ⟨-, hitems, rfl⟩ := Order.tokens_eq_error_iff.1 h
    exact .order hgiven hitems
  · intro h
    cases h with
    | order hgiven hitems =>
      rw [x.orderFor_of_given hgiven]
      exact Order.tokens_eq_error_iff.2 ⟨hgiven, hitems, rfl⟩

namespace Order

/-- Tokens fail to be texts at the first that is none. -/
theorem textsFrom_eq_error_iff {index : Nat} {tokens : List Value} {m : Misuse} :
    textsFrom index tokens = .error m ↔
      ∃ before v after, tokens = before ++ v :: after ∧
        (∀ b ∈ before, b.text?.isSome = true) ∧ v.text? = none ∧
        m = .notJoinable (index + before.length) v.kind := by
  induction tokens generalizing index with
  | nil => simp [textsFrom]
  | cons t tokens ih =>
    rw [textsFrom]
    refine Iff.trans ?_ exists_first_cons_iff.symm
    cases ht : t.text? with
    | none => simp [eq_comm (a := m)]
    | some text =>
      -- The tokens after the first have greater indices, as the count of those before them has.
      have hindex (before : List Value) :
          index + 1 + before.length = index + (t :: before).length := by
        rw [List.length_cons]
        omega
      rw [map_eq_error_iff, ih]
      simp [hindex]

/-- Joining fails as reading the tokens as texts does. -/
theorem joined_eq_error_iff {tokens : List Value} {m : Misuse} :
    joined tokens = .error m ↔ textsFrom 0 tokens = .error m := by
  cases tokens with
  | nil => simp [joined, textsFrom]
  | cons t tokens => exact map_eq_error_iff

/-- Joining is refused for the first token of the order that is no text. -/
theorem joined_eq_error_iff_refuses {s : Session} {q : Query} {x : Schema} {tokens : List Value}
    {m : Misuse} (hx : s.registry.get q.recordType = .ok x)
    (htokens : x.orderFor q.order = .ok tokens) :
    joined tokens = .error m ↔ s.Refuses q .joining (.misuse m) := by
  rw [joined_eq_error_iff, textsFrom_eq_error_iff]
  constructor
  · rintro ⟨before, v, after, rfl, hbefore, hv, rfl⟩
    rw [Nat.zero_add]
    exact .token x before after v hx htokens hbefore hv
  · intro h
    cases h with
    | token y before after v hy h hbefore hv =>
      obtain rfl := Except.ok.inj (hx.symm.trans hy)
      obtain rfl := Except.ok.inj (htokens.symm.trans h)
      exact ⟨before, v, after, rfl, hbefore, hv, by rw [Nat.zero_add]⟩

end Order

end Searchable
