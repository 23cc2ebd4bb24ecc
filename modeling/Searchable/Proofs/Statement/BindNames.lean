import Mathlib.Data.List.Nodup
import Searchable.Statement.TextClause

/-!
# The names of the binds of a condition

`TextClause.ofCondition` names the binds of the parameter with number `i` either `p` and the numeral
of `i`, or that followed by an underscore and the number of an item. Such a name can be read back
(`eq_of_numerals`), since the numeral of `i` ends where the digits end. So binds of different
parameters differ in name (`IndexedBy.index_eq`), as do binds of different items
(`itemName_injective`), and the binds of a whole condition have pairwise distinct names
(`nodup_names_ofParams`). All characters of a name are word characters, and there is at least one
(`wordChars_of_mem`).
-/

namespace Searchable

namespace CharSet

/-- From the first change up to the second every code point is a member. -/
theorem contains_of_between {first second : Nat} {changes : List Nat} {c : Char}
    (hfirst : first ≤ c.toNat) (hsecond : c.toNat < second) :
    (CharSet.mk (first :: second :: changes)).contains c = true := by
  unfold contains
  rw [memberFrom, if_neg (by omega), memberFrom, if_pos hsecond]
  rfl

end CharSet

/-- The decimal digits are word characters. -/
theorem Text.isWordChar_of_isDigit {c : Char} (h : c.isDigit = true) : isWordChar c = true := by
  have hrange : 48 ≤ c.toNat ∧ c.toNat ≤ 57 := by
    simpa [Char.isDigit, UInt32.le_iff_toNat_le] using h
  unfold isWordChar words
  exact CharSet.contains_of_between hrange.1 (by omega)

/-- Each character of a decimal numeral is a word character. -/
theorem Text.isWordChar_of_mem_toDigits {n : Nat} {c : Char} (h : c ∈ Nat.toDigits 10 n) :
    isWordChar c = true :=
  isWordChar_of_isDigit (Nat.isDigit_of_mem_toDigits (by decide) (by decide) h)

namespace Bind

/-- The digits at the start of a numeral and more are the numeral, when no digit comes next. -/
theorem takeWhile_numeral {n : Nat} {cs : List Char} (h : cs.head?.any Char.isDigit = false) :
    (Nat.toDigits 10 n ++ cs).takeWhile Char.isDigit = Nat.toDigits 10 n := by
  have hdigits : ∀ c ∈ Nat.toDigits 10 n, c.isDigit = true := fun c hc =>
    Nat.isDigit_of_mem_toDigits (by decide) (by decide) hc
  rw [List.takeWhile_append_of_pos hdigits]
  have hstop : cs.takeWhile Char.isDigit = [] := by
    cases cs with
    | nil => rfl
    | cons c cs => simpa [List.takeWhile_cons] using h
  rw [hstop, List.append_nil]

/-- Two numerals are of the same number where the texts that they start are the same and go on with
no digit; what follows them is the same, too. -/
theorem eq_of_numerals {m n : Nat} {cs ds : List Char} (hc : cs.head?.any Char.isDigit = false)
    (hd : ds.head?.any Char.isDigit = false)
    (h : Nat.toDigits 10 m ++ cs = Nat.toDigits 10 n ++ ds) : m = n ∧ cs = ds := by
  have hnumeral : Nat.toDigits 10 m = Nat.toDigits 10 n := by
    rw [← takeWhile_numeral (n := m) hc, h, takeWhile_numeral hd]
  have hvalue : m = n := by
    simpa using congrArg (fun digits => Nat.ofDigitChars 10 digits 0) hnumeral
  refine ⟨hvalue, ?_⟩
  rw [hnumeral] at h
  exact List.append_cancel_left h

/-- The characters of the name of a parameter's bind. -/
theorem toList_paramName (index : Nat) :
    (paramName index).toList = 'p' :: Nat.toDigits 10 index := by
  unfold paramName
  rw [String.toList_append, Nat.toString_eq_repr, Nat.toList_repr]
  rfl

/-- The characters of the name of an item's bind. -/
theorem toList_itemName (index item : Nat) :
    (itemName index item).toList =
      'p' :: (Nat.toDigits 10 index ++ '_' :: Nat.toDigits 10 item) := by
  unfold itemName
  rw [String.toList_append, String.toList_append, toList_paramName, Nat.toString_eq_repr,
    Nat.toList_repr]
  simp

/-- Items of different numbers have binds of different names. -/
theorem itemName_injective {index m n : Nat} (h : itemName index m = itemName index n) : m = n := by
  have hchars : (itemName index m).toList = (itemName index n).toList := by rw [h]
  rw [toList_itemName, toList_itemName, List.cons.injEq] at hchars
  have hrest := List.append_cancel_left hchars.2
  rw [List.cons.injEq, ← List.append_nil (Nat.toDigits 10 m),
    ← List.append_nil (Nat.toDigits 10 n)] at hrest
  exact (eq_of_numerals rfl rfl hrest.2).1

/-- The bind has a name of the parameter with the given number, or of an item of it. -/
def IndexedBy (b : Bind) (index : Nat) : Prop :=
  ∃ cs : List Char, cs.head?.any Char.isDigit = false ∧ (∀ c ∈ cs, Text.isWordChar c = true) ∧
    b.name.toList = 'p' :: (Nat.toDigits 10 index ++ cs)

/-- Binds of the same name belong to the same parameter. -/
theorem IndexedBy.index_eq {a b : Bind} {i j : Nat} (ha : a.IndexedBy i) (hb : b.IndexedBy j)
    (h : a.name = b.name) : i = j := by
  obtain ⟨cs, hcs, -, hac⟩ := ha
  obtain ⟨ds, hds, -, hbd⟩ := hb
  rw [h, hbd, List.cons.injEq] at hac
  exact (eq_of_numerals hds hcs hac.2).1.symm

/-- The names of the binds of some items, by the numbers of the items. -/
theorem names_ofItems (index item : Nat) (vs : List Value) :
    (ofItems index item vs).map name = (List.range' item vs.length).map (itemName index) := by
  induction vs generalizing item with
  | nil => rfl
  | cons v vs ih =>
    rw [ofItems, List.map_cons, ih, List.length_cons, List.range'_succ, List.map_cons]

/-- The binds of a parameter belong to it. -/
theorem indexedBy_of_mem_ofParam {index : Nat} {v : Value} {b : Bind}
    (h : b ∈ ofParam index v) : b.IndexedBy index := by
  have hdash : Text.isWordChar '_' = true := by decide
  unfold ofParam at h
  split at h
  · rename_i items _
    have hname : b.name ∈ (ofItems index 0 items).map name := List.mem_map_of_mem h
    rw [names_ofItems, List.mem_map] at hname
    obtain ⟨item, -, hitem⟩ := hname
    refine ⟨'_' :: Nat.toDigits 10 item, rfl, ?_, ?_⟩
    · intro c hc
      rcases List.mem_cons.mp hc with hc | hc
      · rw [hc, hdash]
      · exact Text.isWordChar_of_mem_toDigits hc
    · rw [← hitem, toList_itemName]
  · rw [List.mem_singleton.mp h]
    exact ⟨[], rfl, by simp, by rw [toList_paramName, List.append_nil]⟩

/-- The binds of a parameter have pairwise distinct names. -/
theorem nodup_names_ofParam (index : Nat) (v : Value) : ((ofParam index v).map name).Nodup := by
  unfold ofParam
  split
  · rw [names_ofItems]
    exact List.Nodup.map (fun m n h => itemName_injective h) List.nodup_range'
  · exact List.nodup_singleton _

/-- Each bind of some parameters belongs to one of them. -/
theorem exists_indexedBy {first : Nat} {vs : List Value} {b : Bind}
    (h : b ∈ (ofParams first vs).flatten) : ∃ index, first ≤ index ∧ b.IndexedBy index := by
  induction vs generalizing first with
  | nil => simp [ofParams] at h
  | cons v vs ih =>
    rw [ofParams, List.flatten_cons, List.mem_append] at h
    rcases h with h | h
    · exact ⟨first, Nat.le_refl first, indexedBy_of_mem_ofParam h⟩
    · obtain ⟨index, hle, hindex⟩ := ih h
      exact ⟨index, by omega, hindex⟩

/-- The binds of some parameters have pairwise distinct names. -/
theorem nodup_names_ofParams (first : Nat) (vs : List Value) :
    ((ofParams first vs).flatten.map name).Nodup := by
  induction vs generalizing first with
  | nil => exact List.nodup_nil
  | cons v vs ih =>
    rw [ofParams, List.flatten_cons, List.map_append, List.nodup_append]
    refine ⟨nodup_names_ofParam first v, ih (first + 1), ?_⟩
    -- A name that comes twice would belong to the first parameter and to one with a larger number.
    intro name hname other hother heq
    obtain ⟨a, ha, rfl⟩ := List.mem_map.mp hname
    obtain ⟨b, hb, rfl⟩ := List.mem_map.mp hother
    obtain ⟨index, hle, hindex⟩ := exists_indexedBy hb
    have := (indexedBy_of_mem_ofParam ha).index_eq hindex heq
    omega

/-- The name of a bind of some parameters starts with a letter, and all its characters are word
characters. -/
theorem wordChars_of_mem {first : Nat} {vs : List Value} {b : Bind}
    (h : b ∈ (ofParams first vs).flatten) :
    b.name.toList ≠ [] ∧ ∀ c ∈ b.name.toList, Text.isWordChar c = true := by
  obtain ⟨index, -, cs, -, hword, hname⟩ := exists_indexedBy h
  rw [hname]
  refine ⟨List.cons_ne_nil _ _, fun c hc => ?_⟩
  rcases List.mem_cons.mp hc with hc | hc
  · rw [hc]
    decide
  rcases List.mem_append.mp hc with hc | hc
  · exact Text.isWordChar_of_mem_toDigits hc
  · exact hword c hc

end Bind

end Searchable
