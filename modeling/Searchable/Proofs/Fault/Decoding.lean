import Searchable.Fault
import Searchable.Proofs.Value.Data

/-!
# The texts of faults, read back

A fault whose code and message are texts, and whose details are data, has a text on one line, unless
it would show a whole number that is too long. The text says the code, the message, the details in
their order, and the literal form of the error that led to the fault, if there was one
(`Fault.HasData.isWritten`). The code, the message and the details may hold any characters.

`Cause.IsRaised` lists the causes for which a session refuses an operation, whose faults are of this
kind (`Cause.IsRaised.hasData`).
-/

namespace Searchable

namespace Value

variable {v : Value}

/-- A text or a strategy is data. -/
theorem isData_of_text? (h : v.text?.isSome = true) : v.IsData true := by
  cases v with
  | text s => exact .text s
  | strategy s => exact .strategy s rfl
  | _ => cases h

end Value

namespace Fault

/-- Whether a fault has the given code and message, both texts, and the given details, which are
data under distinct names. -/
structure HasData (strategies : Bool) (f : Fault) (code message : String)
    (detail : Entries Value) : Prop where
  /-- The code is the fault's own, or that of its kind where it has none or an empty one. -/
  code : (f.ownCode = .text code ∧ code ≠ "") ∨
    (f.ownCode = .null ∨ f.ownCode = .text "") ∧ code = f.cause.kind.code
  /-- The message is that of the cause. -/
  message : f.cause.message = .text message
  /-- So are the details. -/
  details : f.cause.detail = detail.map fun e => (.text e.1, e.2)
  /-- Each name stands for one of them. -/
  names : detail.names.Nodup
  /-- They are data. -/
  data : ∀ e ∈ detail, e.2.IsData strategies

/-- A code, a message, details, and the literal form of an error if there is one, under their
names. -/
def parts (code message : String) (detail : Entries Value) (origin? : Option String) :
    Entries Value :=
  [("code", .text code), ("message", .text message),
      ("detail", .map (detail.map fun e => (.text e.1, e.2)))] ++
    (origin?.map fun o => ("cause", Value.text o)).toList

/-- The map of these. -/
def said (code message : String) (detail : Entries Value) (origin? : Option String) : Value :=
  .map ((parts code message detail origin?).map fun e => (.text e.1, e.2))

/-- What becomes of the text of a fault with the given code, message and details; `shown` are the
details as they are read. -/
structure IsWritten (f : Fault) (code message : String) (detail shown : Entries Value) : Prop where
  /-- There is a text exactly if no whole number in the details is too long to be shown and the
  error that led to the fault has a literal form, if there is one. -/
  written_iff : (∃ s, f.text = .ok s) ↔
    (∀ e ∈ detail, ¬e.2.HasLong) ∧ ∀ o ∈ f.origin, ∃ l, o.literal = .ok l
  /-- Why there is none is that such a number is too long, or why the error has no literal form. -/
  unwritten : ∀ why, f.text = .error why →
    why = .longNumber ∨ ∃ o ∈ f.origin, o.literal = .error why
  /-- A text has no control characters. Whatever a number with a fraction is read as, it says the
  code, the message, the details in their order, and the literal form of the error. -/
  reads : ∀ s, f.text = .ok s → (∀ c ∈ s.toList, 0x20 ≤ c.toNat) ∧
    ∃ origin?, Option.Rel (fun o l => o.literal = .ok l) f.origin origin? ∧
      ∀ decimal, Value.decode? decimal s = some (said code message shown origin?)

section Said

variable {strategies : Bool} {code message : String} {detail : Entries Value}
  {origin? : Option String}

/-- What is said is data if the details are. -/
theorem isData_said (hnames : detail.names.Nodup) (hdata : ∀ e ∈ detail, e.2.IsData strategies) :
    (said code message detail origin?).IsData strategies := by
  have hdetail : (Value.map (detail.map fun e => (.text e.1, e.2))).IsData strategies :=
    .map detail hnames hdata
  have hdistinct : (parts code message detail origin?).names.Nodup := by
    cases origin? with
    | none => exact (by decide : ["code", "message", "detail"].Nodup)
    | some o => exact (by decide : ["code", "message", "detail", "cause"].Nodup)
  refine .map (parts code message detail origin?) hdistinct (List.forall_mem_append.2 ⟨?_, ?_⟩)
  · simp only [List.forall_mem_cons]
    exact ⟨.text code, .text message, hdetail, List.forall_mem_nil _⟩
  · intro e he
    obtain ⟨o, -, rfl⟩ := Option.map_eq_some_iff.1 (Option.mem_toList.1 he)
    exact .text o

/-- Only a number in the details can be too long. -/
theorem hasLong_said_iff :
    (said code message detail origin?).HasLong ↔ ∃ e ∈ detail, e.2.HasLong := by
  constructor
  · intro h
    cases h with
    | entry he hlong =>
      obtain ⟨part, hpart, rfl⟩ := List.mem_map.1 he
      rcases List.mem_append.1 hpart with he | he
      · simp only [List.mem_cons, List.not_mem_nil, or_false] at he
        rcases he with rfl | rfl | rfl
        · cases hlong
        · cases hlong
        · cases hlong with
          | entry hmem hlong =>
            obtain ⟨e, he, rfl⟩ := List.mem_map.1 hmem
            exact ⟨e, he, hlong⟩
      · obtain ⟨o, -, rfl⟩ := Option.map_eq_some_iff.1 (Option.mem_toList.1 he)
        cases hlong
  · rintro ⟨e, he, hlong⟩
    have hdetail : (Value.map (detail.map fun e => (.text e.1, e.2))).HasLong :=
      .entry (List.mem_map_of_mem he) hlong
    have hpart : ("detail", Value.map (detail.map fun e => (.text e.1, e.2))) ∈
        parts code message detail origin? := List.mem_append_left _ (by simp)
    exact .entry (List.mem_map_of_mem hpart) hdetail

/-- Strategies in the details are spelled as their names. -/
theorem spelled_said : (said code message detail origin?).spelled =
    said code message (detail.map fun e => (e.1, e.2.spelled)) origin? := by
  rw [said, Value.spelled, Value.spelledEntries_eq_map, said]
  cases origin? <;> simp [parts, Value.spelled, Value.spelledEntries_eq_map]

end Said

section Writing

variable {strategies : Bool} {f : Fault} {code message : String} {detail : Entries Value}

/-- The code of a fault with data. -/
theorem HasData.code_eq (h : f.HasData strategies code message detail) :
    f.code = .text code := by
  unfold Fault.code
  rcases h.code with ⟨hown, hne⟩ | ⟨hown | hown, rfl⟩
  · rw [hown, if_pos]
    simpa [Value.isTrue] using hne
  · rw [hown, if_neg]
    simp [Value.isTrue]
  · rw [hown, if_neg]
    simp [Value.isTrue]

/-- The record of a fault with data says the data, and the error that led to it. -/
theorem HasData.record_eq (h : f.HasData strategies code message detail) :
    f.record = (f.origin.mapM ErrorView.literal).map (said code message detail) := by
  unfold record entries
  rw [h.code_eq, h.message, h.details]
  cases f.origin.mapM ErrorView.literal with
  | error why => rfl
  | ok origin? => rfl

/-- Where the error that led to a fault has a literal form, it is that of the record. -/
theorem rel_of_mapM {origin : Option ErrorView} {origin? : Option String}
    (h : origin.mapM ErrorView.literal = .ok origin?) :
    Option.Rel (fun o l => o.literal = .ok l) origin origin? := by
  cases origin with
  | none =>
    obtain rfl := Except.ok.inj h
    exact .none
  | some o =>
    obtain ⟨l, hl, h⟩ := bind_eq_ok_iff.1 h
    obtain rfl := Except.ok.inj h
    exact .some hl

/-- Where the record of a fault has no literal form to show, there is an error that has none. -/
theorem exists_of_mapM {origin : Option ErrorView} {why : Unwritable}
    (h : origin.mapM ErrorView.literal = .error why) : ∃ o ∈ origin, o.literal = .error why := by
  cases origin with
  | none => cases h
  | some o =>
    refine ⟨o, rfl, ?_⟩
    cases hl : o.literal with
    | error e =>
      simp only [Option.mapM_some, hl] at h
      exact congrArg Except.error (Except.error.inj h)
    | ok l =>
      simp only [Option.mapM_some, hl] at h
      cases h

/-- A fault without a record has no text. -/
theorem text_of_unrecorded {why : Unwritable} (h : f.record = .error why) :
    f.text = .error why := by
  rw [text, h]
  rfl

/-- The text of a fault is that of its record. -/
theorem text_of_recorded {r : Value} (h : f.record = .ok r) :
    f.text = (r.toJson Value.plain).map (Json.write .plain) := by
  rw [text, h]
  show (r.toJson Value.plain >>= fun j => .ok (j.write .plain)) = _
  cases r.toJson Value.plain <;> rfl

/-- Where a fault has no text, this is for one of the two reasons. -/
theorem IsWritten.of_error {shown : Entries Value} {why : Unwritable}
    (h : f.text = .error why)
    (hwhy : why = .longNumber ∨ ∃ o ∈ f.origin, o.literal = .error why)
    (hnot : ¬((∀ e ∈ detail, ¬e.2.HasLong) ∧ ∀ o ∈ f.origin, ∃ l, o.literal = .ok l)) :
    f.IsWritten code message detail shown where
  written_iff := by
    refine ⟨?_, fun hall => absurd hall hnot⟩
    rintro ⟨s, hs⟩
    cases h.symm.trans hs
  unwritten reason hr := by
    obtain rfl := Except.error.inj (h.symm.trans hr)
    exact hwhy
  reads s hs := by cases h.symm.trans hs

/-- What becomes of the text of a fault with data. -/
theorem HasData.isWritten (h : f.HasData strategies code message detail) :
    f.IsWritten code message detail (detail.map fun e => (e.1, e.2.spelled)) := by
  have hrecord := h.record_eq
  cases horigin : f.origin.mapM ErrorView.literal with
  | error why =>
    obtain ⟨o, ho, hnone⟩ := exists_of_mapM horigin
    refine .of_error (text_of_unrecorded (by rw [hrecord, horigin]; rfl)) (.inr ⟨o, ho, hnone⟩) ?_
    rintro ⟨-, hliteral⟩
    obtain ⟨l, hl⟩ := hliteral o ho
    cases hnone.symm.trans hl
  | ok origin? =>
    have htext := text_of_recorded (f := f) (by rw [hrecord, horigin]; rfl)
    have hdata : (said code message detail origin?).IsData strategies :=
      isData_said h.names h.data
    by_cases hlong : ∃ e ∈ detail, e.2.HasLong
    · obtain ⟨e, he, hnumber⟩ := hlong
      have hlong : (said code message detail origin?).HasLong :=
        hasLong_said_iff.2 ⟨e, he, hnumber⟩
      exact .of_error (htext.trans (hdata.unwritten hlong .plain)) (.inl rfl)
        fun hall => hall.1 e he hnumber
    · obtain ⟨t, hwritten, hchars, hdecodes⟩ :=
        hdata.decode?_write (mt hasLong_said_iff.1 hlong) .plain
      have hok : f.text = .ok t := htext.trans hwritten
      have hrel := rel_of_mapM horigin
      have hshort : ∀ e ∈ detail, ¬e.2.HasLong := fun e he hnumber => hlong ⟨e, he, hnumber⟩
      have hliteral : ∀ o ∈ f.origin, ∃ l, o.literal = .ok l := by
        intro o ho
        rw [Option.mem_def.1 ho] at hrel
        cases hrel with
        | some hl => exact ⟨_, hl⟩
      refine ⟨⟨fun _ => ⟨hshort, hliteral⟩, fun _ => ⟨t, hok⟩⟩, fun why hr => ?_, fun s hs => ?_⟩
      · cases hok.symm.trans hr
      · obtain rfl := Except.ok.inj (hok.symm.trans hs)
        exact ⟨hchars, origin?, hrel, fun decimal => by rw [hdecodes, spelled_said]⟩

end Writing

end Fault

/-- The causes for which a session refuses an operation. Columns and finders may be written as
strategies, and all else that is kept is a text. -/
inductive Cause.IsRaised : Cause → Prop where
  /-- A column is declared with a value that is no strategy. -/
  | invalidStrategy (column : String) (v : Value) : IsRaised (.invalidStrategy (.text column) v)
  /-- A declared column is unknown. -/
  | unknownColumn (column name : String) : IsRaised (.unknownColumn (.text column) (.text name))
  /-- A record type is declared again. -/
  | alreadyRegistered (name : String) : IsRaised (.alreadyRegistered name)
  /-- A record type is not declared. -/
  | schemaNotRegistered (name : String) : IsRaised (.schemaNotRegistered (.text name))
  /-- An option is set by the search itself. -/
  | argumentConflict (name : String) : IsRaised (.argumentConflict (.text name))
  /-- A requested column is not declared. -/
  | unknownSearchColumn (column : Value) (h : column.text?.isSome = true) :
    IsRaised (.unknownSearchColumn column)
  /-- A range column is given a value that is no pair, or is given twice. -/
  | invalidRange (column : Value) (h : column.text?.isSome = true) (strategy : String)
      (v reason : Value) (hreason : reason = .null ∨ ∃ s, reason = .text s) :
    IsRaised (.invalidRange column (.text strategy) v reason)
  /-- The store has no such finder. -/
  | finderNotFound (finder : Value) (h : finder.text?.isSome = true) (store : String) :
    IsRaised (.finderNotFound finder (.text store))

namespace Cause

/-- The fault of a cause has data if its message is a text and its details are texts and strategies,
of which none is too long. -/
theorem hasData_of_worded {c : Cause} (es : Entries Value) (hmessage : ∃ s, c.message = .text s)
    (hdetail : c.detail = es.map fun e => (.text e.1, e.2)) (hnames : es.names.Nodup)
    (hes : ∀ e ∈ es, e.2.text?.isSome = true) :
    ∃ code message detail, (Fault.ofCause c).HasData true code message detail ∧
      ∀ e ∈ detail, ¬e.2.HasLong := by
  obtain ⟨message, hmessage⟩ := hmessage
  refine ⟨c.kind.code, message, es, ⟨.inr ⟨.inl rfl, rfl⟩, hmessage, hdetail, hnames,
    fun e he => Value.isData_of_text? (hes e he)⟩, fun e he hlong => ?_⟩
  have htext := hes e he
  generalize e.2 = v at htext hlong
  cases hlong <;> cases htext

/-- The fault of a cause that a session comes to has data. -/
theorem IsRaised.hasData {c : Cause} (h : c.IsRaised) :
    ∃ code message detail, (Fault.ofCause c).HasData true code message detail ∧
      ∀ e ∈ detail, ¬e.2.HasLong := by
  cases h with
  | invalidStrategy column v =>
    exact hasData_of_worded [("column", .text column), ("strategy", .text v.shown)]
      ⟨_, rfl⟩ rfl (by decide : ["column", "strategy"].Nodup) (by simp [Value.text?])
  | unknownColumn column name =>
    exact hasData_of_worded [("column", .text column), ("record_type", .text name)]
      ⟨_, rfl⟩ rfl (by decide : ["column", "record_type"].Nodup) (by simp [Value.text?])
  | alreadyRegistered name | schemaNotRegistered name =>
    exact hasData_of_worded [("record_type", .text name)] ⟨_, rfl⟩ rfl
      (by decide : ["record_type"].Nodup) (by simp [Value.text?])
  | argumentConflict name =>
    exact hasData_of_worded [("key", .text name)] ⟨_, rfl⟩ rfl
      (by decide : ["key"].Nodup) (by simp [Value.text?])
  | unknownSearchColumn column h =>
    exact hasData_of_worded [("column", column)] ⟨_, rfl⟩ rfl
      (by decide : ["column"].Nodup) (by simpa using h)
  | invalidRange column h strategy v reason hreason =>
    have hmessage : ∃ s, (Cause.invalidRange column (.text strategy) v reason).message =
        .text s := by
      rcases hreason with rfl | ⟨s, rfl⟩
      · exact ⟨_, rfl⟩
      · simp only [message]
        split <;> exact ⟨_, rfl⟩
    exact hasData_of_worded [("column", column), ("strategy", .text strategy),
        ("value", .text v.shownLiteral)] hmessage rfl
      (by decide : ["column", "strategy", "value"].Nodup) (by simpa [Value.text?] using h)
  | finderNotFound finder h store =>
    exact hasData_of_worded [("finder", finder), ("executor", .text store)] ⟨_, rfl⟩ rfl
      (by decide : ["finder", "executor"].Nodup) (by simpa [Value.text?] using h)

end Cause

end Searchable
