import Searchable.Json.OfValue
import Searchable.Proofs.Chains
import Searchable.Proofs.Json.RoundTrip
import Searchable.Proofs.Merging

/-!
# Values that interchange texts keep

A value that is made of nothing, truth values, whole numbers, texts, lists and maps from distinct
texts has a text unless one of the numbers is too long to be shown (`Value.IsData.unwritten`), and
reading the text gives the value back, with the entries of each map in their order
(`Value.IsData.decode?_write`). A strategy in such a value is written as its name, so that reading
gives the name (`Value.spelled`).

A tree that is read may repeat a name in a map. `Json.toValue` merges the members of the name, as
they are merged where a map is written by hand.
-/

namespace Searchable

namespace Json

mutual

/-- The value of a tree. Where a map repeats a name, its last value stands in the first place. -/
def toValue : Json → Value
  | null => .null
  | bool b => .bool b
  | int n => .int n
  | float x => .float x
  | text s => .text s
  | array items => .list (itemValues items)
  | object members => .map ((Entries.ofList (memberValues members)).map fun e => (.text e.1, e.2))

/-- The values of several trees. -/
def itemValues : List Json → List Value
  | [] => []
  | j :: js => toValue j :: itemValues js

/-- The values of the members of a map. -/
def memberValues : List (String × Json) → Entries Value
  | [] => []
  | (name, j) :: rest => (name, toValue j) :: memberValues rest

end

end Json

namespace Value

/-- The value that an interchange text says. -/
def decode? (decimal : List Char → Json) (s : String) : Option Value :=
  (Json.read decimal s).map Json.toValue

mutual

/-- The value with each strategy replaced by its name. -/
def spelled : Value → Value
  | strategy s => text s.name
  | list items => list (spelledItems items)
  | map entries => map (spelledEntries entries)
  | v => v

/-- The values with each strategy replaced by its name. -/
def spelledItems : List Value → List Value
  | [] => []
  | v :: vs => spelled v :: spelledItems vs

/-- The entries with each strategy among their values replaced by its name. -/
def spelledEntries : List (Value × Value) → List (Value × Value)
  | [] => []
  | (k, v) :: rest => (k, spelled v) :: spelledEntries rest

end

/-- Whether a value is made of nothing, truth values, whole numbers, texts, lists and maps from
distinct texts, and perhaps of strategies. -/
inductive IsData (strategies : Bool) : Value → Prop where
  /-- Nothing. -/
  | null : IsData strategies .null
  /-- A truth value. -/
  | bool (b : Bool) : IsData strategies (.bool b)
  /-- A whole number. -/
  | int (n : Int) : IsData strategies (.int n)
  /-- A text. -/
  | text (s : String) : IsData strategies (.text s)
  /-- A strategy, if there may be strategies. -/
  | strategy (s : Strategy) (h : strategies = true) : IsData strategies (.strategy s)
  /-- A list of such values. -/
  | list (items : List Value) (h : ∀ v ∈ items, IsData strategies v) :
    IsData strategies (.list items)
  /-- A map from distinct texts to such values. -/
  | map (es : Entries Value) (hnames : es.names.Nodup) (h : ∀ e ∈ es, IsData strategies e.2) :
    IsData strategies (.map (es.map fun e => (.text e.1, e.2)))

/-- Whether a value is a whole number that is too long to be shown, or a list or map with such a
number in it. -/
inductive HasLong : Value → Prop where
  /-- The number. -/
  | int {n : Int} (h : Text.Numeral.isLong n = true) : HasLong (.int n)
  /-- A list with it. -/
  | item {items : List Value} {v : Value} (hv : v ∈ items) (h : HasLong v) : HasLong (.list items)
  /-- A map with it under a key. -/
  | entry {es : List (Value × Value)} {e : Value × Value} (he : e ∈ es) (h : HasLong e.2) :
    HasLong (.map es)

variable {strategies : Bool} {v : Value} {other : Value → Except Unwritable String}

/-- Several values are spelled one by one. -/
theorem spelledItems_eq_map (vs : List Value) : spelledItems vs = vs.map spelled := by
  induction vs with
  | nil => rfl
  | cons v vs ih => rw [spelledItems, ih, List.map_cons]

/-- The entries of a map from texts are spelled one by one. -/
theorem spelledEntries_eq_map (es : Entries Value) :
    spelledEntries (es.map fun e => (.text e.1, e.2)) =
      es.map fun e => (.text e.1, e.2.spelled) := by
  induction es with
  | nil => rfl
  | cons e es ih => rw [List.map_cons, spelledEntries, ih, List.map_cons]

/-- Where there are no strategies there is nothing to replace. -/
theorem IsData.spelled_eq (h : IsData false v) : v.spelled = v := by
  induction h with
  | null | bool b | int n | text s => rfl
  | strategy s h => cases h
  | list items _ ih =>
    rw [spelled, spelledItems_eq_map, List.map_congr_left ih, List.map_id']
  | map es _ _ ih =>
    have hsame : ∀ e ∈ es, ((Value.text e.1, e.2.spelled) : Value × Value) = (.text e.1, e.2) :=
      fun e he => by rw [ih e he]
    rw [spelled, spelledEntries_eq_map, List.map_congr_left hsame]

/-- That a value has plain data of which nothing is lost. -/
structure Keeps (other : Value → Except Unwritable String) (v : Value) (j : Json) : Prop where
  /-- It is the plain data of the value. -/
  written : v.toJson other = .ok j
  /-- It can be read back. -/
  exact : j.IsExact
  /-- Its value is the value, as it is spelled. -/
  value : j.toValue = v.spelled

/-- Where each of several values has such plain data, all have. -/
theorem exists_itemsToJson {vs : List Value} (h : ∀ v ∈ vs, ∃ j, Keeps other v j) :
    ∃ js, itemsToJson other vs = .ok js ∧ (∀ j ∈ js, j.IsExact) ∧
      Json.itemValues js = spelledItems vs := by
  induction vs with
  | nil => exact ⟨[], rfl, List.forall_mem_nil _, rfl⟩
  | cons v vs ih =>
    obtain ⟨hv, hvs⟩ := List.forall_mem_cons.1 h
    obtain ⟨j, hj⟩ := hv
    obtain ⟨js, hwritten, hexact, hvalues⟩ := ih hvs
    refine ⟨j :: js, ?_, List.forall_mem_cons.2 ⟨hj.exact, hexact⟩, ?_⟩
    · exact bind_eq_ok_iff.2 ⟨j, hj.written, bind_eq_ok_iff.2 ⟨js, hwritten, rfl⟩⟩
    · rw [Json.itemValues, spelledItems, hj.value, hvalues]

/-- Where each value of a map from texts has such plain data, the map has, under the same names. -/
theorem exists_entriesToJson {es : Entries Value} (h : ∀ e ∈ es, ∃ j, Keeps other e.2 j) :
    ∃ ms, entriesToJson other (es.map fun e => (.text e.1, e.2)) = .ok ms ∧
      (∀ m ∈ ms, m.2.IsExact) ∧ Json.memberValues ms = es.map fun e => (e.1, e.2.spelled) := by
  induction es with
  | nil => exact ⟨[], rfl, List.forall_mem_nil _, rfl⟩
  | cons e es ih =>
    obtain ⟨he, hes⟩ := List.forall_mem_cons.1 h
    obtain ⟨j, hj⟩ := he
    obtain ⟨ms, hwritten, hexact, hvalues⟩ := ih hes
    refine ⟨(e.1, j) :: ms, ?_, List.forall_mem_cons.2 ⟨hj.exact, hexact⟩, ?_⟩
    · refine bind_eq_ok_iff.2 ⟨e.1, rfl, bind_eq_ok_iff.2 ⟨j, hj.written, ?_⟩⟩
      exact bind_eq_ok_iff.2 ⟨ms, hwritten, rfl⟩
    · rw [Json.memberValues, List.map_cons, hj.value, hvalues]

/-- That a value has plain data of which nothing is lost, unless a whole number in it is too long to
be shown. -/
structure IsKept (other : Value → Except Unwritable String) (v : Value) : Prop where
  /-- Without such a number, the value has plain data. -/
  kept : ¬v.HasLong → ∃ j, Keeps other v j
  /-- With one, it has none. -/
  refused : v.HasLong → v.toJson other = .error .longNumber

/-- Several values of which one has too long a number have no plain data. -/
theorem itemsToJson_of_long {vs : List Value} (h : ∀ v ∈ vs, IsKept other v) (hv : v ∈ vs)
    (hlong : v.HasLong) : itemsToJson other vs = .error .longNumber := by
  induction vs with
  | nil => cases hv
  | cons w vs ih =>
    obtain ⟨hw, hvs⟩ := List.forall_mem_cons.1 h
    rw [itemsToJson]
    by_cases hfirst : w.HasLong
    · rw [hw.refused hfirst]
      rfl
    · obtain ⟨j, hj⟩ := hw.kept hfirst
      have hlater : v ∈ vs := (List.mem_cons.1 hv).resolve_left fun he => hfirst (he ▸ hlong)
      rw [hj.written, ih hvs hlater]
      rfl

/-- A map from texts to values of which one has too long a number has no plain data. -/
theorem entriesToJson_of_long {es : Entries Value} (h : ∀ e ∈ es, IsKept other e.2)
    {e : String × Value} (he : e ∈ es) (hlong : e.2.HasLong) :
    entriesToJson other (es.map fun e => (.text e.1, e.2)) = .error .longNumber := by
  induction es with
  | nil => cases he
  | cons f es ih =>
    obtain ⟨hf, hes⟩ := List.forall_mem_cons.1 h
    rw [List.map_cons, entriesToJson]
    by_cases hfirst : f.2.HasLong
    · rw [hf.refused hfirst]
      rfl
    · obtain ⟨j, hj⟩ := hf.kept hfirst
      have hlater : e ∈ es := (List.mem_cons.1 he).resolve_left fun hef => hfirst (hef ▸ hlong)
      rw [hj.written, ih hes hlater]
      rfl

/-- Values of this kind have plain data of which nothing is lost, as far as their numbers can be
shown, whatever would stand for values that the format does not know. -/
theorem IsData.isKept (h : IsData strategies v) : IsKept other v := by
  induction h with
  | null => exact ⟨fun _ => ⟨.null, rfl, .null, rfl⟩, fun hlong => by cases hlong⟩
  | bool b => exact ⟨fun _ => ⟨.bool b, rfl, .bool b, rfl⟩, fun hlong => by cases hlong⟩
  | int n =>
    refine ⟨fun hshort => ⟨.int n, ?_, .int n, rfl⟩, fun hlong => ?_⟩
    · have hn : ¬Text.Numeral.isLong n = true := fun h => hshort (.int h)
      rw [toJson, wholeText, if_neg hn]
      rfl
    · cases hlong with
      | int hn =>
        rw [toJson, wholeText, if_pos hn]
        rfl
  | text s => exact ⟨fun _ => ⟨.text s, rfl, .text s, rfl⟩, fun hlong => by cases hlong⟩
  | strategy s _ =>
    exact ⟨fun _ => ⟨.text s.name, rfl, .text s.name, rfl⟩, fun hlong => by cases hlong⟩
  | list items _ ih =>
    constructor
    · intro hshort
      obtain ⟨js, hwritten, hexact, hvalues⟩ :=
        exists_itemsToJson fun v hv => (ih v hv).kept fun hlong => hshort (.item hv hlong)
      refine ⟨.array js, ?_, .array js hexact, ?_⟩
      · exact map_eq_ok_iff.2 ⟨js, hwritten, rfl⟩
      · rw [Json.toValue, hvalues, spelled]
    · intro hlong
      cases hlong with
      | item hv hlong =>
        rw [toJson, itemsToJson_of_long ih hv hlong]
        rfl
  | map es hnames _ ih =>
    constructor
    · intro hshort
      obtain ⟨ms, hwritten, hexact, hvalues⟩ := exists_entriesToJson fun e he =>
        (ih e he).kept fun hlong => hshort (.entry (List.mem_map_of_mem he) hlong)
      refine ⟨.object ms, ?_, .object ms hexact, ?_⟩
      · exact map_eq_ok_iff.2 ⟨ms, hwritten, rfl⟩
      · -- The names are distinct, so that nothing is merged.
        have hdistinct : (Entries.names (es.map fun e => (e.1, e.2.spelled))).Nodup := by
          rw [Entries.names, List.map_map]
          exact hnames
        rw [Json.toValue, hvalues, Entries.ofList_of_nodup hdistinct, List.map_map, spelled,
          spelledEntries_eq_map]
        rfl
    · intro hlong
      cases hlong with
      | entry he hlong =>
        obtain ⟨e, hmem, rfl⟩ := List.mem_map.1 he
        rw [toJson, entriesToJson_of_long ih hmem hlong]
        rfl

/-- A value of this kind has no text if one of its numbers is too long to be shown. -/
theorem IsData.unwritten (h : IsData strategies v) (hlong : v.HasLong) (style : Json.Style) :
    (v.toJson other).map (Json.write style) = .error .longNumber := by
  rw [h.isKept.refused hlong]
  rfl

/-- Otherwise its text exists, has no control characters, and says the value. -/
theorem IsData.decode?_write (h : IsData strategies v) (hshort : ¬v.HasLong)
    (style : Json.Style) :
    ∃ s, (v.toJson other).map (Json.write style) = .ok s ∧ (∀ c ∈ s.toList, 0x20 ≤ c.toNat) ∧
      ∀ decimal, decode? decimal s = some v.spelled := by
  obtain ⟨j, hwritten, hexact, hvalue⟩ : ∃ j, Keeps other v j := h.isKept.kept hshort
  refine ⟨j.write style, map_eq_ok_iff.2 ⟨j, hwritten, rfl⟩, ?_, fun decimal => ?_⟩
  · rw [Json.write, String.toList_ofList]
    exact Json.le_of_mem_chars hexact
  · rw [decode?, Json.read_write hexact, Option.map_some, hvalue]

end Value

end Searchable
