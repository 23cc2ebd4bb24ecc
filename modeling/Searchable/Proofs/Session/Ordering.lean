import Searchable.Proofs.Session.Precedence
import Searchable.Proofs.Session.Redeclaration

/-!
# The order of a request

An order written in texts is absent, one text, or the tokens in a list (`Order.Writing`), and
which one holds for a search is the caller's, or the declared one if the caller's is absent.
`Session.OrdersBy` says what a search makes of the order that holds: it is joined by single spaces
unless it is blank, and no such order is a reason to refuse the search.
`Session.compile_ordersBy` proves it of every record type that was registered in a run.

A blank order is none if it is one text or has no tokens at all. As tokens it is kept, so that a
request may have an order of blank characters only (`Session.blank_tokens_kept`).
-/

namespace Searchable

namespace Order

/-- The ways in which an order is written in texts. -/
inductive Writing where
  /-- Nothing is written. -/
  | absent
  /-- One text. -/
  | line (text : String)
  /-- The tokens in a list. -/
  | listed (texts : List String)

namespace Writing

/-- The value that is written. -/
def toValue : Writing → Value
  | absent => .null
  | line text => .text text
  | listed texts => .list (texts.map .text)

/-- The texts that are written. -/
def texts : Writing → List String
  | absent => []
  | line text => [text]
  | listed texts => texts

/-- Whether no text has a character that is not blank. -/
def IsBlank (w : Writing) : Prop :=
  ∀ text ∈ w.texts, Text.isBlank text = true

/-- The caller's order, or the declared one where the caller gives none. -/
def or : Writing → Writing → Writing
  | absent, declared => declared
  | given, _ => given

/-- The texts that are taken for tokens. -/
def tokens : Writing → List String
  | line text => if Text.isBlank text then [] else [text]
  | w => w.texts

/-- The order that is made of them. -/
def order (w : Writing) : Option String :=
  if w.tokens = [] then none else some (" ".intercalate w.tokens)

/-- What an order comes to that is written in a way. -/
structure Directs (w : Writing) (order : Option String) : Prop where
  /-- An order that is not blank is joined of all its texts. -/
  joined : ¬w.IsBlank → order = some (" ".intercalate w.texts)
  /-- A blank one is none if it is not a list of tokens. -/
  blank : w.IsBlank → (∀ texts, w ≠ listed texts) → order = none
  /-- No tokens are no order. -/
  empty : w = listed [] → order = none
  /-- Tokens are joined as they are, blank or not. -/
  kept : ∀ text texts, w = listed (text :: texts) →
    order = some (" ".intercalate (text :: texts))

/-- What is made of the tokens of an order is what it comes to. -/
theorem directs_order (w : Writing) : w.Directs w.order := by
  constructor
  case joined =>
    intro hfilled
    cases w with
    | absent => exact absurd (fun _ h => nomatch h) hfilled
    | line text =>
      have htext : Text.isBlank text ≠ true := fun h =>
        hfilled fun _ hmem => List.mem_singleton.1 hmem ▸ h
      simp only [order, tokens, if_neg htext, texts, List.cons_ne_nil, if_false]
    | listed texts =>
      have hsome : texts ≠ [] := by
        rintro rfl
        exact hfilled fun _ h => nomatch h
      exact if_neg hsome
  case blank =>
    intro hblank hline
    cases w with
    | absent => rfl
    | line text =>
      have htext : Text.isBlank text = true := hblank text (List.mem_singleton_self text)
      simp only [order, tokens, if_pos htext, if_true]
    | listed texts => exact absurd rfl (hline texts)
  case empty =>
    rintro rfl
    rfl
  case kept =>
    rintro text texts rfl
    rfl

/-- Every writing has tokens. -/
theorem tokens_toValue (w : Writing) :
    Order.tokens w.toValue = .ok (w.tokens.map .text) := by
  cases w with
  | absent | listed texts => rfl
  | line text =>
    simp only [Order.tokens, toValue, Value.text?, tokens]
    split <;> rfl

end Writing

/-- Texts are read as texts. -/
theorem textsFrom_map_text (index : Nat) (texts : List String) :
    textsFrom index (texts.map .text) = .ok texts := by
  induction texts generalizing index with
  | nil => rfl
  | cons text texts ih =>
    simp only [List.map_cons, textsFrom, Value.text?, ih]
    rfl

/-- The tokens of every writing can be joined. -/
theorem joined_tokens (w : Writing) : joined (w.tokens.map .text) = .ok w.order := by
  rw [Writing.order]
  cases w.tokens with
  | nil => rfl
  | cons text texts =>
    calc joined ((text :: texts).map .text)
        = (textsFrom 0 ((text :: texts).map .text)).map
            fun texts => some (" ".intercalate texts) := rfl
      _ = .ok (some (" ".intercalate (text :: texts))) := by
          rw [textsFrom_map_text]
          rfl
      _ = .ok (if text :: texts = [] then none else some (" ".intercalate (text :: texts))) := by
          rw [if_neg (List.cons_ne_nil text texts)]

end Order

/-- The tokens that hold for a query are those of the caller's order or, without one, the declared
ones. -/
theorem Schema.orderFor_toValue {x : Schema} {declared : Order.Writing}
    (hx : x.order = declared.tokens.map .text) (given : Order.Writing) :
    x.orderFor given.toValue = .ok ((given.or declared).tokens.map .text) := by
  have hread := given.tokens_toValue
  cases given with
  | absent => exact congrArg Except.ok hx
  | line text =>
    have hgiven : Value.text text ≠ .null := nofun
    exact (x.orderFor_of_given hgiven).trans hread
  | listed texts =>
    have hgiven : Value.list (texts.map .text) ≠ .null := nofun
    exact (x.orderFor_of_given hgiven).trans hread

/-- A query that is read has the schema of its record type and the tokens of the order that holds.
-/
theorem Registry.of_prepare {r : Registry} {q : Query} {p : Prepared} (h : r.prepare q = .ok p) :
    r.get q.recordType = .ok p.schema ∧ p.schema.orderFor q.order = .ok p.order := by
  obtain ⟨_, -, h⟩ := bind_eq_ok_iff.1 h
  obtain ⟨x, hx, h⟩ := bind_eq_ok_iff.1 h
  obtain ⟨_, -, h⟩ := bind_eq_ok_iff.1 h
  obtain ⟨_, -, h⟩ := bind_eq_ok_iff.1 h
  obtain ⟨tokens, htokens, h⟩ := bind_eq_ok_iff.1 h
  obtain rfl := Except.ok.inj h
  exact ⟨hx, mapError_eq_ok_iff.1 htokens⟩

/-- The order of a request is joined of the tokens that hold for its query. -/
theorem Registry.joined_of_compile {r : Registry} {q : Query} {x : Schema} {tokens : List Value}
    {made : Request} (hx : r.get q.recordType = .ok x) (htokens : x.orderFor q.order = .ok tokens)
    (hmade : (r.compile q).answer = .ok made) : Order.joined tokens = .ok made.order := by
  unfold compile at hmade
  split at hmade
  · cases hmade
  · rename_i p hp
    obtain ⟨hschema, hread⟩ := of_prepare hp
    obtain rfl : x = p.schema := Except.ok.inj (hx.symm.trans hschema)
    obtain rfl : tokens = p.order := Except.ok.inj (htokens.symm.trans hread)
    obtain ⟨order, hdone, hrequest⟩ := bind_eq_ok_iff.1 hmade
    obtain rfl := Except.ok.inj hrequest
    exact mapError_eq_ok_iff.1 hdone

namespace Session

variable {s : Session} {q : Query} {x : Schema} {given declared : Order.Writing}

/-- What a search makes of the order that holds for it. -/
structure OrdersBy (s : Session) (q : Query) (w : Order.Writing) : Prop where
  /-- Every request that is made for the query has the order that the writing comes to. -/
  requested : ∀ r, (s.registry.compile q).answer = .ok r → w.Directs r.order
  /-- What is in order up to its order compiles. -/
  accepted : s.Reaches q .order → ∃ r, (s.registry.compile q).answer = .ok r
  /-- The finder is called with the order of the request. -/
  sent : ∀ r x service, (s.registry.compile q).answer = .ok r →
    s.registry.get q.recordType = .ok x → s.store.finder x.finder = .ok service →
    ∃ named, Entries.get? "order" named = some ((r.order.map Value.text).getD .null) ∧
      (s.search q).answer = (s.store.call Product.notAwaited service q.recordType named).answer ∧
      (s.search q).state.store =
        (s.store.call Product.notAwaited service q.recordType named).state

/-- Where the schema has the tokens of a writing, requests have the order that the caller's writing,
or without one this one, comes to. -/
theorem ordersBy_of_get (hx : s.registry.get q.recordType = .ok x)
    (hdeclared : x.order = declared.tokens.map .text) (hgiven : q.order = given.toValue) :
    s.OrdersBy q (given.or declared) := by
  have htokens : x.orderFor q.order = .ok ((given.or declared).tokens.map .text) :=
    hgiven ▸ Schema.orderFor_toValue hdeclared given
  have hjoined := Order.joined_tokens (given.or declared)
  constructor
  case requested =>
    intro r hr
    have horder : r.order = (given.or declared).order :=
      Except.ok.inj ((Registry.joined_of_compile hx htokens hr).symm.trans hjoined)
    exact horder ▸ Order.Writing.directs_order _
  case accepted =>
    intro hreach
    -- Neither of the stages that judge the order refuses it, and no stage is left but the last.
    have hread : ∀ e, ¬s.Refuses q .order e := by
      intro e he
      obtain ⟨m, rfl⟩ : ∃ m, e = .misuse m := by cases he; exact ⟨_, rfl⟩
      have hfails := (Schema.orderFor_eq_error_iff (x := x)).2 he
      rw [htokens] at hfails
      cases hfails
    have hjoin : ∀ e, ¬s.Refuses q .joining e := by
      intro e he
      obtain ⟨m, rfl⟩ : ∃ m, e = .misuse m := by cases he; exact ⟨_, rfl⟩
      have hfails := (Order.joined_eq_error_iff_refuses hx htokens).2 he
      rw [hjoined] at hfails
      cases hfails
    refine exists_compile fun earlier e hearlier => ?_
    cases earlier with
    | order => exact hread e
    | joining => exact hjoin e
    | finder => exact absurd hearlier (by decide)
    | options | schema | criteria | additional => exact hreach _ e (by decide)
  case sent =>
    intro r y service hr hy hservice
    refine ⟨r.named, rfl, ?_⟩
    rw [search_of_compiled hr, dispatch_of_get hy, hservice]
    exact ⟨rfl, rfl⟩

/-- In every session that is reached from an empty registry, the requests for a record type whose
first accepted registration wrote its order in texts have the order that the caller wrote in texts,
or else that of the registration. -/
theorem compile_ordersBy (i : Inspector) (settings : SearchSettings) (store : Store)
    (ops : List Operation) (q : Query) (given declared : Order.Writing) (a : Registration)
    (later : List Registration)
    (hfirst : Session.accepted ⟨.empty i settings, store⟩ q.recordType ops = a :: later)
    (hdeclared : a.declaration.order = declared.toValue) (hgiven : q.order = given.toValue) :
    (Session.run ⟨.empty i settings, store⟩ ops).OrdersBy q (given.or declared) := by
  have hrun := schemaOf?_run_of_none (s := ⟨.empty i settings, store⟩)
    (Registry.schemaOf?_empty i settings q.recordType) ops
  rw [hfirst] at hrun
  obtain ⟨hbuild, hx, -⟩ := hrun
  have htokens : Order.tokens a.declaration.order = .ok (declared.tokens.map .text) :=
    hdeclared ▸ declared.tokens_toValue
  have hschema : a.schema.order = declared.tokens.map .text := by
    obtain ⟨name, ss, -, -, hschema⟩ := (Registry.build_eq_ok_iff htokens).1 hbuild
    rw [hschema]
  exact ordersBy_of_get (Registry.get_eq_ok_iff.2 hx) hschema hgiven

/-- Declares a person with an order. -/
def inOrder (w : Order.Writing) : Declaration :=
  ⟨[("name", .text "match_full")], w.toValue, .null, [], .null⟩

/-- The schema of a person with an order. -/
def ordered (w : Order.Writing) : Schema :=
  ⟨"Person", [("name", .matchFull)], w.tokens.map .text, .null, [], .text usualFinder⟩

/-- Asks for all persons in an order. -/
def allPersons (w : Order.Writing) : Query :=
  ⟨.recordType "Person", .null, w.toValue, .null, []⟩

/-- Declaring a person with an order makes a schema. -/
theorem build_inOrder (w : Order.Writing) :
    (guardedOver (.recordType "Person")).registry.build (.recordType "Person") (inOrder w) =
      .ok (ordered w) := by
  have hread : List.Forall₂
      (fun e f => e.1 = f.1 ∧ Strategy.ofValue (.text e.1) e.2 = .ok f.2)
      (inOrder w).strategies [("name", .matchFull)] := .cons ⟨rfl, rfl⟩ .nil
  have hcolumns : ∀ column ∈ ["name"], column ∈ ["name", "age"] := by decide
  exact build_guardedOver isSameKey_person typeName_person hread hcolumns w.tokens_toValue

/-- That registration is the first that is accepted. -/
theorem accepted_inOrder (w : Order.Writing) :
    (guardedOver (.recordType "Person")).accepted (.recordType "Person")
        [.register (.recordType "Person") (inOrder w)] =
      [⟨.recordType "Person", inOrder w, ordered w⟩] := by
  have hanswer : ((guardedOver (.recordType "Person")).step
      (.register (.recordType "Person") (inOrder w))).answer = .ok (.schema (ordered w)) := by
    have hkey : (Value.recordType "Person").unhashable? = none := rfl
    have hnew := Registry.answer_register_of_new (d := inOrder w)
      (r := (guardedOver (.recordType "Person")).registry) hkey rfl
    rw [build_inOrder] at hnew
    simp only [step, Outcome.map, hnew]
    rfl
  simp only [accepted, accepted?, hanswer, isSameKey_person, if_true]
  rfl

/-- The session in which a person was declared with an order. -/
def ofOrder (w : Order.Writing) : Session :=
  (guardedOver (.recordType "Person")).run [.register (.recordType "Person") (inOrder w)]

/-- A declared order of two tokens holds for a query without one, and a blank text overrides it. -/
theorem ofOrder_ordersBy :
    (ofOrder (.listed ["name", "-age"])).OrdersBy (allPersons .absent)
        (.listed ["name", "-age"]) ∧
      (ofOrder (.listed ["name", "-age"])).OrdersBy (allPersons (.line " ")) (.line " ") := by
  have hfirst := accepted_inOrder (.listed ["name", "-age"])
  constructor
  · exact compile_ordersBy _ _ _ _ (allPersons .absent) .absent (.listed ["name", "-age"]) _ _
      hfirst rfl rfl
  · exact compile_ordersBy _ _ _ _ (allPersons (.line " ")) (.line " ") (.listed ["name", "-age"])
      _ _ hfirst rfl rfl

/-- A blank order in a list is the order of the request, where the same order as a text is none. -/
theorem blank_tokens_kept :
    Order.Writing.IsBlank (.listed [""]) ∧
      ((ofOrder .absent).registry.compile (allPersons (.listed [""]))).answer =
        .ok ⟨none, some "", .null, []⟩ ∧
      ((ofOrder .absent).registry.compile (allPersons (.line ""))).answer =
        .ok ⟨none, none, .null, []⟩ := by
  have hx : (ofOrder .absent).registry.get (.recordType "Person") = .ok (ordered .absent) :=
    get_guardedOver isSameKey_person (build_inOrder .absent)
  have hblank : Order.Writing.IsBlank (.listed [""]) := fun text htext =>
    List.mem_singleton.1 htext ▸ rfl
  refine ⟨hblank, ?_, ?_⟩
  · simp only [Registry.compile, Registry.prepare, allPersons, hx]
    rfl
  · simp only [Registry.compile, Registry.prepare, allPersons, hx]
    rfl

end Session

end Searchable
