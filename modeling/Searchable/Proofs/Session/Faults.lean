import Searchable.Proofs.Fault.Decoding
import Searchable.Proofs.Schema.Forms
import Searchable.Proofs.Session.Dispatch
import Searchable.Proofs.Session.Redeclaration

/-!
# The faults of a session

Whatever a session is asked to do, it refuses it for one of the causes of `Cause.IsRaised`
(`Session.step_isRaised`), so that each fault it comes to has a text, which says the fault. Every
function on the way fails only in this way if those that it calls do, and a column or finder that is
shown is one that was written as a text or a strategy.
-/

namespace Searchable

/-- Whether a failure is a misuse, or a fault for one of the causes that a session comes to. -/
inductive Failure.IsRaised : Failure → Prop where
  /-- A misuse. -/
  | misuse (m : Misuse) : IsRaised (.misuse m)
  /-- A fault with nothing added to its cause. -/
  | fault (c : Cause) (h : c.IsRaised) : IsRaised (.fault (.ofCause c))

/-- Whether an outcome fails only as a session may. -/
abbrev Raises {α : Type} (o : Except Failure α) : Prop :=
  FailsOnly Failure.IsRaised o

/-- A misuse is one of the failures. -/
theorem raises_mapError {α : Type} (o : Except Misuse α) : Raises (o.mapError .misuse) :=
  .mapError fun m _ => .misuse m

/-- A refusal is one of the failures if its cause is one of the causes; it is a misuse if it cannot
be worded. -/
theorem Cause.IsRaised.ofCause {c : Cause} (h : c.IsRaised) : (Failure.ofCause c).IsRaised := by
  unfold Failure.ofCause
  split
  · exact .fault c h
  · exact .misuse _

/-- So is an outcome that is the refusal. -/
theorem Cause.IsRaised.raises {α : Type} {c : Cause} (h : c.IsRaised) :
    Raises (.error (.ofCause c) : Except Failure α) :=
  .error h.ofCause

section Registering

variable (r : Registry) (recordType : Value) (d : Declaration)

/-- A strategy is refused if it is none. -/
theorem Strategy.raises_ofValue (column : String) (v : Value) :
    Raises (Strategy.ofValue (.text column) v) := by
  unfold ofValue
  split
  · exact .ok _
  · split
    · exact .ok _
    · exact (Cause.IsRaised.invalidStrategy column _).raises
  · exact (Cause.IsRaised.invalidStrategy column v).raises

namespace Registry

/-- A column is refused if it is unknown. -/
theorem raises_checkColumn (name : String) (aliases : Entries Value) (column : String) :
    Raises (r.checkColumn recordType name aliases column) := by
  unfold checkColumn
  split
  · exact .ok ()
  · refine .bind (raises_mapError _) fun known _ => ?_
    split
    · exact .ok ()
    · exact (Cause.IsRaised.unknownColumn column name).raises

/-- Columns are refused if one of them is. -/
theorem raises_acceptColumns (name : String) (aliases es : Entries Value) :
    Raises (r.acceptColumns recordType name aliases es) := by
  induction es with
  | nil => exact .ok []
  | cons e es ih =>
    rw [acceptColumns]
    refine .bind (Strategy.raises_ofValue e.1 e.2) fun s _ => ?_
    refine .bind (r.raises_checkColumn recordType name aliases e.1) fun _ _ => ?_
    exact .bind ih fun ss _ => .ok _

/-- No schema is built if a column is refused. -/
theorem raises_build : Raises (r.build recordType d) :=
  .bind (raises_mapError _) fun name _ =>
    .bind (r.raises_acceptColumns recordType name d.aliases d.strategies) fun _ _ =>
      .bind (raises_mapError _) fun _ _ => .ok _

/-- A value that is no key is not looked up. -/
theorem raises_checkKey : Raises (checkKey recordType) := by
  unfold checkKey
  split
  · exact .error (.misuse _)
  · exact .ok ()

/-- A record type is asked for its schema. -/
theorem raises_get : Raises (r.get recordType) := by
  refine .bind (raises_checkKey recordType) fun _ _ => ?_
  split
  · exact .ok _
  · exact .bind (raises_mapError _) fun name _ =>
      (Cause.IsRaised.schemaNotRegistered name).raises

/-- A registration is refused if no schema is built, or another is stored. -/
theorem raises_register : Raises (r.register recordType d).answer := by
  unfold register
  split
  · rename_i e he
    exact .error (raises_checkKey recordType e he)
  · split
    · -- The record type has no schema.
      unfold registerNew
      split
      · rename_i e he
        exact .error (r.raises_build recordType d e he)
      · exact .ok _
    · unfold registerAgain
      split
      · exact .error (.misuse _)
      · exact .ok _
      · split
        · exact (Cause.IsRaised.alreadyRegistered _).raises
        · exact .ok _

end Registry

end Registering

section Compiling

variable {column v : Value} {target : String}

/-- A clause is refused if it does not fit its parameters. -/
theorem raises_clause (text : String) (params : List Value) : Raises (clause text params) :=
  raises_mapError _

namespace Strategy

/-- The clauses of a strategy are refused for a value that is no pair where one is needed. -/
theorem raises_clauses (s : Strategy) (h : column.text?.isSome = true) (v : Value) :
    Raises (s.clauses column target v) := by
  have hbounds : Raises (boundsOf s column v) := by
    unfold boundsOf
    split
    · exact .ok _
    · exact (Cause.IsRaised.invalidRange column h s.name v .null (.inl rfl)).raises
  cases s with
  | matchFull => exact (raises_clause _ _).map _
  | matchPartial => exact .bind (raises_mapError _) fun _ _ => (raises_clause _ _).map _
  | closedRange =>
    refine .bind hbounds fun (low, high) _ => ?_
    show Raises (closedClauses target low high)
    unfold closedClauses
    split
    · exact .ok []
    · exact .bind (raises_clause _ _) fun _ _ => .bind (raises_clause _ _) fun _ _ => .ok _
  | openRange =>
    -- Each bound decides on its own clause, where in a closed range it may stand for the other.
    refine .bind hbounds fun (low, high) _ => ?_
    show Raises (openClauses target low high)
    rw [openClauses_eq]
    have hside {b : Value} {o : Except Failure Clause} (ho : Raises o) :
        Raises (if b.isBlank then .ok [] else o.map ([·])) := by
      split
      · exact .ok []
      · exact ho.map _
    exact .bind (hside (raises_clause _ _)) fun _ _ =>
      .bind (hside (raises_clause _ _)) fun _ _ => .ok _
  | including => exact (raises_clause _ _).map _

end Strategy

/-- Criteria are refused if a column is given whole and split. -/
theorem Criteria.raises_fold (ranges : Option (Entries Strategy)) (criteria : Criteria) :
    Raises (fold ranges criteria) := by
  refine .mapError fun o ho => ?_
  cases o with
  | noName m => exact .misuse m
  | conflict w =>
    -- What is shown of the column is a text, for the column is given under its own name.
    obtain ⟨name, hw, -⟩ := exists_of_conflict (List.Subset.refl criteria)
      (fun _ _ h => by cases h) ho
    have hsome : w.text?.isSome = true := by rw [hw]; rfl
    exact (Cause.IsRaised.invalidRange w hsome _ _ _ (.inr ⟨_, rfl⟩)).ofCause

namespace Schema

variable (s : Schema) {columns : Entries Mention}

/-- The clauses of a column are refused if the column is not declared or its value does not do. -/
theorem raises_clausesOf (name : String) (m : Mention) (h : m.written.text?.isSome = true) :
    Raises (s.clausesOf name m) := by
  unfold clausesOf
  split
  · exact .ok []
  · split
    · exact (Cause.IsRaised.unknownSearchColumn m.written h).raises
    · exact .bind (raises_mapError _) fun _ _ => Strategy.raises_clauses _ h _

/-- The clauses of several columns are refused if those of one are. -/
theorem raises_groups (h : ∀ e ∈ columns, e.2.written.text?.isSome = true) :
    Raises (s.groups columns) := by
  induction columns with
  | nil => exact .ok []
  | cons e columns ih =>
    obtain ⟨he, hrest⟩ := List.forall_mem_cons.1 h
    exact .bind (s.raises_clausesOf e.1 e.2 he) fun _ _ => .bind (ih hrest) fun _ _ => .ok _

/-- Columns are refused if one is not declared. -/
theorem raises_checkDeclared (h : ∀ e ∈ columns, e.2.written.text?.isSome = true) :
    Raises (s.checkDeclared columns) := by
  induction columns with
  | nil => exact .ok ()
  | cons e columns ih =>
    obtain ⟨he, hrest⟩ := List.forall_mem_cons.1 h
    rw [checkDeclared]
    split
    · exact ih hrest
    · exact (Cause.IsRaised.unknownSearchColumn e.2.written he).raises

/-- Criteria and a further condition are refused if they cannot be folded or one of their columns is
refused. -/
theorem raises_compile (criteria : Criteria) (additional : Value) :
    Raises (s.compile criteria additional) := by
  refine .bind (.bind (Criteria.raises_fold _ criteria) fun columns hfold => ?_) fun _ _ =>
    .bind (raises_mapError _) fun _ _ => .ok _
  have hwritten : ∀ e ∈ columns, e.2.written.text?.isSome = true := fun e he => by
    rw [Criteria.text?_of_fold hfold e he]
    rfl
  exact .bind (s.raises_checkDeclared hwritten) fun _ _ => s.raises_groups hwritten

end Schema

/-- Options are refused if the search sets one of them itself. -/
theorem raises_checkOptions (options : Entries Value) : Raises (checkOptions options) := by
  unfold checkOptions
  split
  · exact (Cause.IsRaised.argumentConflict _).raises
  · exact .ok ()

/-- A query is refused if one of its parts is. -/
theorem Registry.raises_compile (r : Registry) (q : Query) : Raises (r.compile q).answer := by
  have hprepare : Raises (r.prepare q) :=
    .bind (raises_checkOptions q.options) fun _ _ =>
      .bind (r.raises_get q.recordType) fun s _ =>
        .bind (raises_mapError _) fun criteria _ =>
          .bind (s.raises_compile criteria q.additional) fun _ _ =>
            .bind (raises_mapError _) fun _ _ => .ok _
  unfold compile
  split
  · rename_i e he
    exact .error (hprepare e he)
  · exact .bind (raises_mapError _) fun _ _ => .ok _

end Compiling

namespace Store

variable (s : Store)

/-- A finder is refused if the store has none of its name. -/
theorem raises_finder (name : Value) : Raises (s.finder name) := by
  unfold finder
  split
  · exact .error (.misuse _)
  · rename_i text htext
    have hsome : name.text?.isSome = true := by rw [htext]; rfl
    refine .bind (raises_mapError _) fun service _ => ?_
    split
    · exact .ok _
    · exact (Cause.IsRaised.finderNotFound name hsome s.kind.name).raises

/-- A call fails only as a misuse. -/
theorem raises_call (refusal : Product → Misuse) (service : Service) (recordType : Value)
    (named : Entries Value) : Raises (s.call refusal service recordType named).answer := by
  unfold call
  split
  · exact .error (.misuse _)
  · split
    · unfold find
      split
      · exact .error (.misuse _)
      · exact .ok _
    · split
      · exact .error (.misuse _)
      · exact .error (.misuse _)

/-- So does a call by name. -/
theorem raises_callNamed (name : String) (recordType : Value) (named : Entries Value) :
    Raises (s.callNamed name recordType named).answer := by
  unfold callNamed
  split
  · exact .error (.misuse _)
  · exact s.raises_call _ _ recordType named
  · split
    · exact .error (.misuse _)
    · exact .error (.misuse _)

end Store

namespace Session

variable (s : Session)

/-- A search is refused if its query is, or its finder is, or the call is. -/
theorem raises_search (q : Query) : Raises (s.search q).answer := by
  cases hcompiled : (s.registry.compile q).answer with
  | error e =>
    rw [search_of_refused hcompiled]
    exact .error (s.registry.raises_compile q e hcompiled)
  | ok r =>
    rw [search_of_compiled hcompiled]
    show Raises (s.dispatch q.recordType r).answer
    have hfinder : Raises (s.finderFor q.recordType) :=
      .bind (s.registry.raises_get q.recordType) fun x _ =>
        .bind (s.store.raises_finder x.finder) fun _ _ => .ok _
    unfold dispatch
    split
    · rename_i e he
      exact .error (hfinder e he)
    · exact s.store.raises_call _ _ q.recordType r.named

/-- Whatever a session is asked to do, it refuses it for one of the causes that are listed. -/
theorem step_isRaised (op : Operation) : Raises (s.step op).answer := by
  cases op with
  | register recordType d => exact (s.registry.raises_register recordType d).map _
  | contains recordType =>
    exact (FailsOnly.bind (Registry.raises_checkKey recordType) fun _ _ => .ok _).map _
  | get recordType => exact (s.registry.raises_get recordType).map _
  | requestNames recordType =>
    exact (FailsOnly.bind (s.registry.raises_get recordType) fun _ _ => .ok _).map _
  | compile i =>
    simp only [step]
    split
    · exact .error (.misuse _)
    · exact (s.registry.raises_compile _).map _
  | search i =>
    simp only [step]
    split
    · exact .error (.misuse _)
    · exact (s.raises_search _).map _
  | call name recordType named => exact (s.store.raises_callNamed name recordType named).map _

end Session

namespace Fault

/-- Details without strategies are read as they are. -/
theorem HasData.spelled_eq {f : Fault} {code message : String} {detail : Entries Value}
    (h : f.HasData false code message detail) :
    (detail.map fun e => (e.1, e.2.spelled)) = detail := by
  have hsame : ∀ e ∈ detail, ((e.1, e.2.spelled) : String × Value) = e := fun e he => by
    rw [(h.data e he).spelled_eq]
  rw [List.map_congr_left hsame, List.map_id']

/-- A fault with data has a text, on one line, unless a whole number that it shows is too long, and
reading the text gives the code, the message, the details, and the literal form of the error that
led to it. Every fault that a session comes to has data without such a number and nothing that led
to it; a strategy in the data is read as its name. -/
theorem text_decodes :
    (∀ (f : Fault) (code message : String) (detail : Entries Value),
      f.HasData false code message detail → f.IsWritten code message detail detail) ∧
    (∀ (f : Fault) (code message : String) (detail : Entries Value),
      f.HasData true code message detail →
        f.IsWritten code message detail (detail.map fun e => (e.1, e.2.spelled))) ∧
    ∀ (s : Session) (op : Operation) (f : Fault),
      (s.step op).answer = .error (.fault f) →
        ∃ code message detail, f.HasData true code message detail ∧
          (∀ e ∈ detail, ¬e.2.HasLong) ∧ f.origin = none := by
  refine ⟨fun f code message detail h => ?_, fun f _ _ _ h => h.isWritten, fun s op f hanswer => ?_⟩
  · have hwritten := h.isWritten
    rwa [h.spelled_eq] at hwritten
  · cases s.step_isRaised op _ hanswer with
    | fault c hc =>
      obtain ⟨code, message, detail, hdata, hshort⟩ := hc.hasData
      exact ⟨code, message, detail, hdata, hshort, rfl⟩

/-- Details with names and texts of any characters. -/
def awkwardDetail : Entries Value :=
  [("tab\t", .list [.int (-5), .null, .list []]), ("", .map [(.text "é", .text "")])]

/-- A fault with characters that have to be escaped, with nested details and with an origin. -/
def awkward : Fault :=
  ⟨.general .base (.text "a \"quoted\"\n\\ and a \x01")
      (awkwardDetail.map fun e => (.text e.1, e.2)),
    .text "\x7f", some ⟨"ValueError", "ValueError", .ok "ValueError('\"')", .ok "\""⟩⟩

/-- Its code, its message and its details are data. -/
theorem awkward_hasData :
    awkward.HasData false "\x7f" "a \"quoted\"\n\\ and a \x01" awkwardDetail where
  code := .inl ⟨rfl, by decide⟩
  message := rfl
  details := rfl
  names := by decide
  data := by
    have hitems : (Value.list [.int (-5), .null, .list []]).IsData false := by
      refine .list _ ?_
      simp only [List.forall_mem_cons]
      exact ⟨.int (-5), .null, .list [] (List.forall_mem_nil _), List.forall_mem_nil _⟩
    have hinner : (Value.map [(.text "é", .text "")]).IsData false :=
      .map [("é", .text "")] (by decide : ["é"].Nodup) (List.forall_mem_singleton.2 (.text ""))
    simp only [awkwardDetail, List.forall_mem_cons]
    exact ⟨hitems, hinner, List.forall_mem_nil _⟩

/-- The fault of a person that is not registered. -/
def unregistered : Fault :=
  .ofCause (.schemaNotRegistered (.text "Person"))

/-- What becomes of the text of such a fault, and that the fault that a session without schemas
comes to has data. -/
theorem awkward_decodes :
    awkward.HasData false "\x7f" "a \"quoted\"\n\\ and a \x01" awkwardDetail ∧
      awkward.IsWritten "\x7f" "a \"quoted\"\n\\ and a \x01" awkwardDetail awkwardDetail ∧
      ((Session.guardedOver (.recordType "Person")).step (.get (.recordType "Person"))).answer =
        .error (.fault unregistered) ∧
      ∃ code message detail, unregistered.HasData true code message detail ∧
        unregistered.IsWritten code message detail
          (detail.map fun e => (e.1, e.2.spelled)) := by
  have hanswer :
      ((Session.guardedOver (.recordType "Person")).step (.get (.recordType "Person"))).answer =
        .error (.fault unregistered) := by
    have hnone : (Session.guardedOver (.recordType "Person")).registry.find?
        (.recordType "Person") = none := rfl
    simp only [Session.step, Outcome.look, Registry.get, hnone, Session.typeName_person]
    rfl
  obtain ⟨code, message, detail, hraised, -, -⟩ := text_decodes.2.2 _ _ _ hanswer
  exact ⟨awkward_hasData, text_decodes.1 _ _ _ _ awkward_hasData, hanswer, code, message, detail,
    hraised, text_decodes.2.1 _ _ _ _ hraised⟩

/-- A fault whose details are a whole number that is too long to be shown. -/
def longDetailed : Fault :=
  ⟨.general .base (.text "m") [(.text "n", .int Text.Numeral.leastLong)], .null, none⟩

/-- A fault with data may be without a text. -/
theorem longDetailed_unwritten :
    ¬∀ (f : Fault) (code message : String) (detail : Entries Value),
      f.HasData false code message detail → ∃ s, f.text = .ok s := by
  intro h
  have hdata : longDetailed.HasData false "base_error" "m"
      [("n", .int Text.Numeral.leastLong)] :=
    ⟨.inr ⟨.inl rfl, rfl⟩, rfl, rfl, by decide, List.forall_mem_singleton.2 (.int _)⟩
  have hshort := (hdata.isWritten.written_iff.1 (h _ _ _ _ hdata)).1
  exact List.forall_mem_singleton.1 hshort (.int Text.Numeral.isLong_leastLong)

end Fault

end Searchable
