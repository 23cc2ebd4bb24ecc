import Searchable.Proofs.Json.Reading
import Searchable.Proofs.Text.Numerals

/-!
# Interchange texts that are read back

What is written of a tree without floating-point numbers is read as that tree (`Json.read_write`),
in either style and whatever a number with a fraction is read as, and has no control characters
(`Json.le_of_mem_chars`).

A part of a text is read back if reading stops where the part ends (`Json.ReadsBack`). That a number
ends where it does shows only in what follows, and after each part of a text that is written nothing
follows, or a comma or a closing bracket (`Json.Ends`). Texts are read back character by character,
each by its code units; sequences and maps are texts of their items with commas between them.
-/

namespace Searchable.Json

/-- What can be seen of each of some characters holds of all of them. -/
theorem forall_mem_of_all {p : Char → Prop} [DecidablePred p] {cs : List Char}
    (h : cs.all (fun c => decide (p c)) = true) : ∀ c ∈ cs, p c := fun c hc =>
  of_decide_eq_true (List.all_eq_true.1 h c hc)

section Characters

/-- The value of a digit that is written. -/
theorem hexValue?_digitChar : ∀ d < 16, hexValue? (Nat.digitChar d) = some d := by decide

/-- An escaped code unit is read back. -/
theorem units?_escapeUnit {unit : Nat} (h : unit < 0x10000) (cs : List Char) :
    units? (escapeUnit unit ++ cs) = (units? cs).map fun r => (unit :: r.1, r.2) := by
  have hdigit (n : Nat) : hexValue? (Nat.digitChar (n % 16)) = some (n % 16) :=
    hexValue?_digitChar _ (Nat.mod_lt _ (by decide))
  have hunit : unit? (Nat.digitChar (unit / 4096 % 16)) (Nat.digitChar (unit / 256 % 16))
      (Nat.digitChar (unit / 16 % 16)) (Nat.digitChar (unit % 16)) = some unit := by
    simp only [unit?, hdigit]
    show some _ = some unit
    rw [Option.some.injEq]
    omega
  simp only [escapeUnit, List.cons_append, List.nil_append, units?, hunit, Option.bind_some]

/-- The code units as which a character is read that is written in a style. -/
def unitsOf (style : Style) (c : Char) : List Nat :=
  if style.asciiOnly = true ∧ 0x10000 ≤ c.toNat then
    [0xD800 + (c.toNat - 0x10000) / 0x400, 0xDC00 + (c.toNat - 0x10000) % 0x400]
  else [c.toNat]

/-- A character of one unit is its own code point. -/
theorem unitsOf_of_lt {style : Style} {c : Char} (h : c.toNat < 0x10000) :
    unitsOf style c = [c.toNat] :=
  if_neg fun hlarge => absurd hlarge.2 (Nat.not_le.2 h)

/-- There are no more code points than the format can escape. -/
theorem toNat_lt (c : Char) : c.toNat < 0x110000 := by
  rcases c.valid with h | ⟨-, h⟩
  · exact Nat.lt_trans h (by decide)
  · exact h

/-- The ways in which a character is written between quotes. -/
inductive WrittenAs (style : Style) (c : Char) : List Char → Prop where
  /-- After a backslash another character stands for it. -/
  | short (escape : Char) (h : shortEscapes.lookup escape = some c) (hother : escape ≠ 'u')
    (hprintable : 0x20 ≤ escape.toNat) (hsmall : c.toNat < 0x10000) :
    WrittenAs style c ['\\', escape]
  /-- Its code units are escaped, of which there are two only where the text has to be ASCII. -/
  | code (h : c.toNat < 0x10000 ∨ style.asciiOnly = true) : WrittenAs style c (escapeCode c.toNat)
  /-- It stands for itself. -/
  | plain (hquote : c ≠ '"') (hslash : c ≠ '\\') (hprintable : 0x20 ≤ c.toNat)
    (h : style.asciiOnly = true → c.toNat < 0x10000) : WrittenAs style c [c]

/-- A character is written in one of these ways. -/
theorem writtenAs_escapeChar (style : Style) (c : Char) :
    WrittenAs style c (escapeChar style c) := by
  unfold escapeChar
  by_cases hquote : c = '"'
  · rw [if_pos hquote, hquote]
    exact .short _ rfl (by decide) (by decide) (by decide)
  by_cases hslash : c = '\\'
  · rw [if_neg hquote, if_pos hslash, hslash]
    exact .short _ rfl (by decide) (by decide) (by decide)
  rw [if_neg hquote, if_neg hslash]
  -- The five control characters that have a short escape.
  iterate 5
    refine iteInduction (fun heq => ?_) fun _ => ?_
    · exact heq ▸ .short _ rfl (by decide) (by decide) (by decide)
  refine iteInduction (fun hcontrol => ?_) fun hcontrol => ?_
  · have hsmall : c.toNat < 0x10000 := by omega
    have hcode : escapeCode c.toNat = escapeUnit c.toNat := if_pos hsmall
    exact hcode ▸ .code (.inl hsmall)
  refine iteInduction (fun hascii => ?_) fun hascii => ?_
  · exact .code (.inr (Bool.and_eq_true_iff.1 hascii).1)
  · refine .plain hquote hslash (Nat.not_lt.1 hcontrol) fun hstyle => ?_
    rw [hstyle, Bool.true_and, decide_eq_true_iff] at hascii
    omega

/-- A character is read as its code units, in whatever way it is written. -/
theorem WrittenAs.units?_append {style : Style} {c : Char} {text : List Char}
    (h : WrittenAs style c text) (cs : List Char) :
    units? (text ++ cs) = (units? cs).map fun r => (unitsOf style c ++ r.1, r.2) := by
  cases h with
  | short escape hescape hother _ hsmall =>
    rw [List.cons_append, List.cons_append, List.nil_append, units?, hescape, unitsOf_of_lt hsmall]
    · rfl
    · exact fun _ _ _ _ _ heq => absurd heq hother
  | code hstyle =>
    have htop := toNat_lt c
    by_cases hsmall : c.toNat < 0x10000
    · rw [escapeCode, if_pos hsmall, units?_escapeUnit hsmall, unitsOf_of_lt hsmall]
      rfl
    · -- A surrogate pair, which is written only where the text has to be ASCII.
      have hpair : style.asciiOnly = true ∧ 0x10000 ≤ c.toNat :=
        ⟨hstyle.resolve_left hsmall, Nat.not_lt.1 hsmall⟩
      rw [escapeCode, if_neg hsmall, unitsOf, if_pos hpair, List.append_assoc,
        units?_escapeUnit (by omega), units?_escapeUnit (by omega), Option.map_map]
      rfl
  | plain hquote hslash hprintable hstyle =>
    have hunits : unitsOf style c = [c.toNat] :=
      if_neg fun hlarge => absurd hlarge.2 (Nat.not_le.2 (hstyle hlarge.1))
    rw [List.singleton_append, units?, if_neg (Nat.not_lt.2 hprintable), hunits]
    · rfl
    · exact hquote
    · intro _ _ _ _ _ heq
      exact absurd heq hslash
    · intro _ _ heq
      exact absurd heq hslash

/-- Characters are read as their code units, up to the quote that ends the text. -/
theorem units?_flatMap_escapeChar (style : Style) (text rest : List Char) :
    units? (text.flatMap (escapeChar style) ++ '"' :: rest) =
      some (text.flatMap (unitsOf style), rest) := by
  induction text with
  | nil => rfl
  | cons c text ih =>
    rw [List.flatMap_cons, List.append_assoc, (writtenAs_escapeChar style c).units?_append, ih]
    rfl

/-- The code point of a character is that of no half of a surrogate pair. -/
theorem pair?_of_char (c : Char) (low : Nat) : pair? c.toNat low = none := by
  refine if_neg fun h => ?_
  rcases c.valid with hlow | ⟨hhigh, -⟩
  · exact absurd hlow (Nat.not_lt.2 h.1)
  · exact absurd (show c.toNat < 0xDC00 from h.2.1)
      (Nat.not_lt.2 (Nat.le_trans (by decide) (Nat.le_of_lt hhigh)))

/-- A code point is that of its character. -/
theorem scalar?_toNat (c : Char) : scalar? c.toNat = some c := by
  have hvalid : c.toNat.isValidChar := c.valid
  rw [scalar?, if_pos hvalid, Char.ofNat_toNat]

/-- Code units that begin with those of a character make that character. -/
theorem joined?_unitsOf (style : Style) (c : Char) (units : List Nat) :
    joined? (unitsOf style c ++ units) = (joined? units).map (c :: ·) := by
  have htop := toNat_lt c
  by_cases h : style.asciiOnly = true ∧ 0x10000 ≤ c.toNat
  · have hpair : pair? (0xD800 + (c.toNat - 0x10000) / 0x400)
        (0xDC00 + (c.toNat - 0x10000) % 0x400) = some c.toNat := by
      rw [pair?, if_pos (by omega), Option.some.injEq]
      omega
    rw [unitsOf, if_pos h]
    simp only [List.cons_append, List.nil_append, joined?, hpair, scalar?_toNat, Option.bind_some]
  · rw [unitsOf, if_neg h]
    cases units with
    | nil => simp only [List.append_nil, joined?, scalar?_toNat, Option.map_some]
    | cons unit units =>
      simp only [List.cons_append, List.nil_append, joined?, pair?_of_char, scalar?_toNat,
        Option.bind_some]

/-- A text between quotes is read back. -/
theorem string?_quoted (style : Style) (s : String) (rest : List Char) :
    string? (s.toList.flatMap (escapeChar style) ++ '"' :: rest) = some (s, rest) := by
  have hjoined (text : List Char) : joined? (text.flatMap (unitsOf style)) = some text := by
    induction text with
    | nil => rfl
    | cons c text ih => rw [List.flatMap_cons, joined?_unitsOf, ih, Option.map_some]
  rw [string?, units?_flatMap_escapeChar, Option.bind_some]
  simp only [hjoined, Option.map_some, String.ofList_toList]

end Characters

section Numbers

/-- What may follow a part of a text that is written. -/
def Ends (rest : List Char) : Prop :=
  ∀ c ∈ rest.head?, c ∈ [',', ']', '\x7d']

/-- The end of the text may follow. -/
theorem ends_nil : Ends [] := fun _ h => nomatch h

/-- A comma or a closing bracket may follow. -/
theorem ends_cons {c : Char} (h : c ∈ [',', ']', '\x7d']) (rest : List Char) : Ends (c :: rest) :=
  fun _ hc => Option.some.inj hc ▸ h

/-- The digits of a number do not begin with a nought, unless it is nought. -/
theorem head?_toDigits {n : Nat} (hn : 0 < n) : (Nat.toDigits 10 n).head? ≠ some '0' := by
  -- The induction is on the number: the first digit is that of the number without its last digit.
  induction n using Nat.strongRecOn with
  | _ n ih =>
    by_cases hsmall : n < 10
    · have hdigit : ∀ d < 10, 0 < d → Nat.digitChar d ≠ '0' := by decide
      rw [Nat.toDigits_of_lt_base hsmall, List.head?_cons]
      exact fun h => hdigit n hsmall hn (Option.some.inj h)
    · have hfirst := ih (n / 10) (by omega) (by omega)
      obtain ⟨d, ds, hdigits⟩ := List.exists_cons_of_ne_nil
        (show Nat.toDigits 10 (n / 10) ≠ [] from Nat.toDigits_ne_nil)
      rw [hdigits, List.head?_cons] at hfirst
      rwa [Nat.toDigits_of_base_le (by decide) (Nat.not_lt.1 hsmall), hdigits, List.cons_append,
        List.head?_cons]

/-- A digit is none of the characters that may follow a part. -/
theorem takeWhile_isDigit_of_ends {rest : List Char} (h : Ends rest) :
    rest.takeWhile Char.isDigit = [] ∧ rest.dropWhile Char.isDigit = rest := by
  cases rest with
  | nil => exact ⟨rfl, rfl⟩
  | cons c rest =>
    have hall : ∀ c ∈ [',', ']', '\x7d'], c.isDigit = false := forall_mem_of_all (by decide)
    have hc : ¬c.isDigit = true := Bool.eq_false_iff.1 (hall c (h c rfl))
    exact ⟨List.takeWhile_cons_of_neg hc, List.dropWhile_cons_of_neg hc⟩

/-- No fraction and no exponent follows. -/
theorem fraction_of_ends {rest : List Char} (h : Ends rest) :
    fraction rest = ([], rest) ∧ exponent rest = ([], rest) := by
  cases rest with
  | nil => exact ⟨rfl, rfl⟩
  | cons c rest =>
    have hall : ∀ c ∈ [',', ']', '\x7d'], c ≠ '.' ∧ ¬(c = 'e' ∨ c = 'E') :=
      forall_mem_of_all (by decide)
    obtain ⟨hpoint, hexponent⟩ := hall c (h c rfl)
    constructor
    · rw [fraction]
      exact fun _ heq => absurd (List.cons.inj heq).1 hpoint
    · rw [exponent, if_neg hexponent]

open Text.Numeral in
/-- The sign of a whole number stands before its digits. -/
theorem minus_toString (n : Int) (rest : List Char) :
    minus ((toString n).toList ++ rest) = (if n < 0 then ['-'] else [], digitsOf n ++ rest) := by
  rw [show (toString n).toList = _ from toList_write n]
  split
  · rfl
  · obtain ⟨d, ds, hcons⟩ := List.exists_cons_of_ne_nil
      (show digitsOf n ≠ [] from Nat.toDigits_ne_nil)
    rw [hcons, List.cons_append, minus]
    intro _ heq
    have hd : d.isDigit = true := isDigit_of_mem_digitsOf d (hcons ▸ List.mem_cons_self)
    rw [(List.cons.inj heq).1] at hd
    cases hd

open Text.Numeral in
/-- There are digits, and no nought before others. -/
theorem digitsOf_wellFormed (n : Int) :
    ¬(digitsOf n = [] ∨ (digitsOf n).head? = some '0' ∧ digitsOf n ≠ ['0']) := by
  rintro (hnone | ⟨hhead, hmore⟩)
  · exact Nat.toDigits_ne_nil hnone
  · rcases Nat.eq_zero_or_pos n.natAbs with hzero | hpos
    · exact hmore (by rw [digitsOf, hzero]; rfl)
    · exact head?_toDigits hpos hhead

open Text.Numeral in
/-- A whole number is read back. -/
theorem number?_toString (decimal : List Char → Json) (n : Int) {rest : List Char}
    (h : Ends rest) : number? decimal ((toString n).toList ++ rest) = some (.int n, rest) := by
  have hdigits : ∀ c ∈ digitsOf n, c.isDigit = true := isDigit_of_mem_digitsOf
  have hwhole : (digitsOf n ++ rest).takeWhile Char.isDigit = digitsOf n := by
    rw [List.takeWhile_append_of_pos hdigits, (takeWhile_isDigit_of_ends h).1, List.append_nil]
  have hrest : (digitsOf n ++ rest).dropWhile Char.isDigit = rest := by
    rw [List.dropWhile_append_of_pos hdigits, (takeWhile_isDigit_of_ends h).2]
  have hvalue : Nat.ofDigitChars 10 (digitsOf n) 0 = n.natAbs := Nat.ofDigitChars_ten_toDigits
  simp only [number?, minus_toString, hwhole, hrest, if_neg (digitsOf_wellFormed n),
    (fraction_of_ends h).1, (fraction_of_ends h).2, hvalue, List.append_nil, if_true]
  -- The size with the sign before it is the number.
  by_cases hneg : n < 0
  · have hsize : -(n.natAbs : Int) = n := by omega
    rw [if_pos hneg, if_neg (List.cons_ne_nil _ _), hsize]
  · have hsize : (n.natAbs : Int) = n := by omega
    rw [if_neg hneg, if_pos rfl, hsize]

end Numbers

section Items

variable {α : Type} {item : List Char → Option (α × List Char)} {close : Char} {as : List α}
  {written : α → List Char} {texts : List (List Char)} {p : Char → Prop}

/-- That a text is read as something, wherever it ends. -/
structure ReadsBack (item : List Char → Option (α × List Char)) (a : α) (text : List Char) :
    Prop where
  /-- It begins with a character that is no blank and does not end another part. -/
  opens : ∃ c cs, text = c :: cs ∧ isSpace c = false ∧ c ∉ [',', ']', '\x7d']
  /-- It is read to its end and no further. -/
  read : ∀ rest, Ends rest → item (text ++ rest) = some (a, rest)

/-- A character that is no blank is not skipped. -/
theorem skip_cons {c : Char} (h : isSpace c = false) (cs : List Char) : skip (c :: cs) = c :: cs :=
  List.dropWhile_cons_of_neg (Bool.eq_false_iff.1 h)

/-- Nothing of a text that is read back is skipped. -/
theorem ReadsBack.skip_append {a : α} {text : List Char} (h : ReadsBack item a text)
    (rest : List Char) : skip (text ++ rest) = text ++ rest := by
  obtain ⟨c, cs, rfl, hspace, -⟩ := h.opens
  exact skip_cons hspace (cs ++ rest)

/-- A blank before items is skipped. -/
theorem items?_space (count : Nat) (cs : List Char) :
    items? item close count (' ' :: cs) = items? item close count cs := by
  cases count <;> rfl

/-- Texts with a comma and a blank between them. -/
def separated (texts : List (List Char)) : List Char :=
  [',', ' '].intercalate texts

/-- One text has no comma. -/
theorem separated_singleton (text : List Char) : separated [text] = text :=
  List.intercalate_singleton

/-- A comma and a blank follow each text but the last. -/
theorem separated_cons_cons (text next : List Char) (texts : List (List Char)) :
    separated (text :: next :: texts) = text ++ ',' :: ' ' :: separated (next :: texts) := by
  rw [separated, List.intercalate_cons_cons, List.append_assoc]
  rfl

/-- Texts begin as the first of them does. -/
theorem exists_separated_append (text : List Char) (texts : List (List Char)) (rest : List Char) :
    ∃ cs, separated (text :: texts) ++ rest = text ++ cs := by
  cases texts with
  | nil => exact ⟨rest, by rw [separated_singleton]⟩
  | cons next texts => exact ⟨_, by rw [separated_cons_cons, List.append_assoc]⟩

/-- Each text is no longer than all of them together. -/
theorem length_le_of_mem {text : List Char} (h : text ∈ texts) :
    text.length ≤ (separated texts).length := by
  induction texts with
  | nil => cases h
  | cons first texts ih =>
    cases texts with
    | nil =>
      obtain rfl := List.mem_singleton.1 h
      exact Nat.le_of_eq (congrArg List.length (separated_singleton text).symm)
    | cons next texts =>
      rw [separated_cons_cons, List.length_append, List.length_cons, List.length_cons]
      rcases List.mem_cons.1 h with rfl | h
      · omega
      · have hlater := ih h
        omega

/-- Texts that are not empty are no more than they have characters. -/
theorem length_le_separated (h : ∀ text ∈ texts, text ≠ []) :
    texts.length ≤ (separated texts).length := by
  induction texts with
  | nil => exact Nat.le_refl 0
  | cons first texts ih =>
    obtain ⟨hfirst, hrest⟩ := List.forall_mem_cons.1 h
    have hpos : 0 < first.length := List.length_pos_iff.2 hfirst
    cases texts with
    | nil => rwa [separated_singleton]
    | cons next texts =>
      have hlater := ih hrest
      rw [List.length_cons] at hlater
      simp only [separated_cons_cons, List.length_append, List.length_cons]
      omega

/-- What all characters of the texts have all characters have, if commas and blanks have it. -/
theorem forall_mem_separated (hcomma : p ',') (hspace : p ' ')
    (h : ∀ text ∈ texts, ∀ c ∈ text, p c) : ∀ c ∈ separated texts, p c := by
  induction texts with
  | nil => exact fun _ hc => nomatch hc
  | cons text texts ih =>
    obtain ⟨htext, hrest⟩ := List.forall_mem_cons.1 h
    cases texts with
    | nil =>
      rw [separated_singleton]
      exact htext
    | cons next texts =>
      rw [separated_cons_cons]
      exact List.forall_mem_append.2
        ⟨htext, List.forall_mem_cons.2 ⟨hcomma, List.forall_mem_cons.2 ⟨hspace, ih hrest⟩⟩⟩

/-- Items that are read back are read back together, up to the bracket that closes them. -/
theorem items?_separated (hclose : close ∈ [']', '\x7d'])
    (h : ∀ a ∈ as, ReadsBack item a (written a)) (hne : as ≠ []) {count : Nat}
    (hcount : as.length ≤ count) (rest : List Char) :
    items? item close count (separated (as.map written) ++ close :: rest) = some (as, rest) := by
  have hcloses : ∀ c ∈ [']', '\x7d'], isSpace c = false ∧ c ≠ ',' ∧ c ∈ [',', ']', '\x7d'] :=
    forall_mem_of_all (by decide)
  obtain ⟨hspace, hcomma, hends⟩ := hcloses close hclose
  induction as generalizing count with
  | nil => exact absurd rfl hne
  | cons a as ih =>
    obtain ⟨ha, hothers⟩ := List.forall_mem_cons.1 h
    obtain ⟨count, rfl⟩ : ∃ n, count = n + 1 :=
      ⟨count - 1, by rw [List.length_cons] at hcount; omega⟩
    cases as with
    | nil =>
      rw [List.map_cons, List.map_nil, separated_singleton, items?, ha.skip_append,
        ha.read _ (ends_cons hends rest)]
      simp only [Option.bind_some, skip_cons hspace, if_neg hcomma, if_true]
    | cons b as =>
      have hlater : items? item close count
          (separated (written b :: as.map written) ++ close :: rest) = some (b :: as, rest) :=
        ih hothers (List.cons_ne_nil b as) (Nat.le_of_succ_le_succ hcount)
      have hskip (cs : List Char) : skip (',' :: cs) = ',' :: cs := skip_cons rfl cs
      rw [List.map_cons, List.map_cons, separated_cons_cons, List.append_assoc, items?,
        ha.skip_append, List.cons_append, ha.read _ (ends_cons (by decide) _)]
      simp only [Option.bind_some, List.cons_append, hskip, if_true, items?_space, hlater,
        Option.map_some]

/-- What stands between brackets is read back if the items are. -/
theorem bracketed?_separated (hclose : close ∈ [']', '\x7d'])
    (h : ∀ a ∈ as, ReadsBack item a (written a)) (rest : List Char) :
    bracketed? item close (separated (as.map written) ++ close :: rest) = some (as, rest) := by
  cases as with
  | nil =>
    have hspace : ∀ c ∈ [']', '\x7d'], isSpace c = false := forall_mem_of_all (by decide)
    show bracketed? item close (close :: rest) = some ([], rest)
    simp only [bracketed?, skip_cons (hspace close hclose), if_true]
  | cons a as =>
    -- There are enough characters, for no item is without any.
    have hcount : (a :: as).length ≤
        (separated ((a :: as).map written) ++ close :: rest).length := by
      have hsome : ∀ text ∈ (a :: as).map written, text ≠ [] := by
        intro text htext
        obtain ⟨b, hb, rfl⟩ := List.mem_map.1 htext
        obtain ⟨c, cs, hcons, -⟩ := (h b hb).opens
        exact hcons ▸ List.cons_ne_nil c cs
      have hfew := length_le_separated hsome
      rw [List.length_map] at hfew
      rw [List.length_append]
      omega
    have hitems := items?_separated hclose h (List.cons_ne_nil a as) hcount rest
    -- The first character is that of the first item, which does not close anything.
    obtain ⟨c, cs, hcons, hspace, hopens⟩ := (h a List.mem_cons_self).opens
    obtain ⟨ds, hds⟩ := exists_separated_append (written a) (as.map written) (close :: rest)
    rw [← List.map_cons, hcons, List.cons_append] at hds
    have hother : c ≠ close := by
      rintro rfl
      exact hopens (List.mem_cons_of_mem _ hclose)
    rw [hds] at hitems ⊢
    rw [bracketed?, skip_cons hspace]
    simp only [if_neg hother, hitems]

end Items

section Trees

variable {style : Style} {decimal : List Char → Json} {j : Json}

/-- The text of a member of a map. -/
def memberText (style : Style) (member : String × Json) : List Char :=
  quoted style member.1 ++ ':' :: ' ' :: chars style member.2

/-- The text of items is that of each, separated. -/
theorem itemChars_eq (items : List Json) :
    itemChars style items = separated (items.map (chars style)) := by
  induction items with
  | nil => rfl
  | cons j items ih =>
    cases items with
    | nil => rw [itemChars, List.map_cons, List.map_nil, separated_singleton]
    | cons next items =>
      rw [itemChars, ih]
      · simp only [List.map_cons, separated_cons_cons]
      · exact fun h => nomatch h

/-- The text of members is that of each, separated. -/
theorem memberChars_eq (members : List (String × Json)) :
    memberChars style members = separated (members.map (memberText style)) := by
  induction members with
  | nil => rfl
  | cons member members ih =>
    obtain ⟨name, j⟩ := member
    cases members with
    | nil => rw [memberChars, List.map_cons, List.map_nil, separated_singleton, memberText]
    | cons next members =>
      rw [memberChars, ih]
      · simp only [List.map_cons, separated_cons_cons, memberText, List.append_assoc,
          List.cons_append]
      · exact fun h => nomatch h

/-- Whether a tree has no floating-point numbers, whose reading the format leaves open. -/
inductive IsExact : Json → Prop where
  /-- Nothing. -/
  | null : IsExact .null
  /-- A truth value. -/
  | bool (b : Bool) : IsExact (.bool b)
  /-- A whole number. -/
  | int (n : Int) : IsExact (.int n)
  /-- A text. -/
  | text (s : String) : IsExact (.text s)
  /-- A sequence of such trees. -/
  | array (items : List Json) (h : ∀ j ∈ items, IsExact j) : IsExact (.array items)
  /-- A map to such trees. -/
  | object (members : List (String × Json)) (h : ∀ m ∈ members, IsExact m.2) :
    IsExact (.object members)

/-- A text between quotes, and what follows it. -/
theorem quoted_append (s : String) (rest : List Char) :
    quoted style s ++ rest = '"' :: (s.toList.flatMap (escapeChar style) ++ '"' :: rest) := by
  rw [quoted, List.append_assoc, List.cons_append]
  rfl

/-- A member is read back if what stands under its name is. -/
theorem readsBack_member {item : List Char → Option (Json × List Char)} (name : String)
    (h : ReadsBack item j (chars style j)) :
    ReadsBack (member? item) (name, j) (memberText style (name, j)) where
  opens := ⟨'"', _, rfl, rfl, by decide⟩
  read rest hrest := by
    have hcolon (cs : List Char) : skip (':' :: cs) = ':' :: cs := skip_cons rfl cs
    have hspace (cs : List Char) : skip (' ' :: cs) = skip cs := rfl
    rw [memberText, List.append_assoc, quoted_append, member?, string?_quoted]
    simp only [Option.bind_some, List.cons_append, hcolon, hspace, h.skip_append,
      h.read rest hrest, Option.map_some]

/-- A whole number begins with a character that begins no tree of another shape. -/
theorem exists_head_toString (n : Int) : ∃ c cs, (toString n).toList = c :: cs ∧
    c ∉ [' ', '\t', '\n', '\r', ',', ']', '\x7d', '"', '[', '\x7b'] := by
  have hothers : ∀ c ∈ [' ', '\t', '\n', '\r', ',', ']', '\x7d', '"', '[', '\x7b'],
      c ≠ '-' ∧ c.isDigit = false := forall_mem_of_all (by decide)
  obtain ⟨d, ds, hcons⟩ := List.exists_cons_of_ne_nil
    (show Text.Numeral.digitsOf n ≠ [] from Nat.toDigits_ne_nil)
  rw [show (toString n).toList = _ from Text.Numeral.toList_write n, hcons]
  split
  · exact ⟨'-', d :: ds, rfl, fun hmem => (hothers _ hmem).1 rfl⟩
  · have hd := Text.Numeral.isDigit_of_mem_digitsOf d (hcons ▸ List.mem_cons_self)
    refine ⟨d, ds, rfl, fun hmem => ?_⟩
    cases hd.symm.trans (hothers _ hmem).2

/-- A whole number is read back as a tree. -/
theorem readsBack_int (n : Int) (depth : Nat) :
    ReadsBack (tree? decimal (depth + 1)) (.int n) (chars style (.int n)) := by
  obtain ⟨c, cs, hcons, hc⟩ := exists_head_toString n
  have hspace : isSpace c = false := by
    rw [isSpace, List.contains_eq_mem, decide_eq_false_iff_not]
    exact fun hmem => hc (List.mem_append_left [',', ']', '\x7d', '"', '[', '\x7b'] hmem)
  constructor
  case opens =>
    refine ⟨c, cs, hcons, hspace, fun hmem => hc ?_⟩
    exact List.mem_append_right [' ', '\t', '\n', '\r']
      (List.mem_append_left ['"', '[', '\x7b'] hmem)
  case read =>
    intro rest hrest
    have hread := number?_toString decimal n hrest
    have hne : c ≠ '"' ∧ c ≠ '[' ∧ c ≠ '\x7b' := by
      refine ⟨?_, ?_, ?_⟩ <;> rintro rfl <;> exact hc (by decide)
    rw [hcons, List.cons_append] at hread
    rw [chars, hcons, List.cons_append, tree?, hread]
    · rfl
    · exact fun _ heq => hne.1 (List.cons.inj heq).1
    · exact fun _ heq => hne.2.1 (List.cons.inj heq).1
    · exact fun _ heq => hne.2.2 (List.cons.inj heq).1

/-- The words of the format are read back. -/
theorem readsBack_word (depth : Nat) : ∀ w ∈ words,
    ReadsBack (tree? decimal (depth + 1)) w.2 w.1.toList := by
  intro w hw
  rw [words, List.mem_cons, List.mem_cons, List.mem_singleton] at hw
  obtain rfl | rfl | rfl := hw
  · exact ⟨⟨_, _, rfl, rfl, by decide⟩, fun rest _ => rfl⟩
  · exact ⟨⟨_, _, rfl, rfl, by decide⟩, fun rest _ => rfl⟩
  · exact ⟨⟨_, _, rfl, rfl, by decide⟩, fun rest _ => rfl⟩

/-- Every tree without floating-point numbers is read back, if the bound is not exceeded. -/
theorem IsExact.readsBack (h : j.IsExact) {depth : Nat}
    (hdepth : (chars style j).length ≤ depth + 1) :
    ReadsBack (tree? decimal (depth + 1)) j (chars style j) := by
  -- The induction is on the tree. What stands between brackets is shorter by both of them, so that
  -- the bound for the parts is still enough when it is one less.
  induction h generalizing depth with
  | null => exact readsBack_word depth _ (.head _)
  | bool b =>
    cases b with
    | true => exact readsBack_word depth _ (.tail _ (.head _))
    | false => exact readsBack_word depth _ (.tail _ (.tail _ (.head _)))
  | int n => exact readsBack_int n depth
  | text s =>
    refine ⟨⟨'"', _, rfl, rfl, by decide⟩, fun rest _ => ?_⟩
    rw [chars, quoted_append, tree?, string?_quoted, Option.map_some]
  | array items _ ih =>
    refine ⟨⟨'[', _, rfl, rfl, by decide⟩, fun rest _ => ?_⟩
    rw [chars, itemChars_eq] at hdepth ⊢
    simp only [List.cons_append, List.length_cons, List.length_append] at hdepth
    obtain ⟨inner, rfl⟩ : ∃ n, depth = n + 1 := ⟨depth - 1, by omega⟩
    have hitems : ∀ j ∈ items, ReadsBack (tree? decimal (inner + 1)) j (chars style j) := by
      intro j hj
      have hlength := length_le_of_mem (List.mem_map_of_mem (f := chars style) hj)
      exact ih j hj (by omega)
    rw [List.append_assoc, List.cons_append, List.singleton_append, tree?,
      bracketed?_separated (by decide) hitems, Option.map_some]
  | object members _ ih =>
    refine ⟨⟨'\x7b', _, rfl, rfl, by decide⟩, fun rest _ => ?_⟩
    rw [chars, memberChars_eq] at hdepth ⊢
    simp only [List.cons_append, List.length_cons, List.length_append] at hdepth
    obtain ⟨inner, rfl⟩ : ∃ n, depth = n + 1 := ⟨depth - 1, by omega⟩
    have hmembers : ∀ m ∈ members,
        ReadsBack (member? (tree? decimal (inner + 1))) m (memberText style m) := by
      intro m hm
      have hlength := length_le_of_mem (List.mem_map_of_mem (f := memberText style) hm)
      rw [memberText, List.length_append, List.length_cons, List.length_cons] at hlength
      exact readsBack_member m.1 (ih m hm (by omega))
    rw [List.append_assoc, List.cons_append, List.singleton_append, tree?,
      bracketed?_separated (by decide) hmembers, Option.map_some]

/-- What is written of a tree without floating-point numbers is read as the tree. -/
theorem read_write (h : j.IsExact) : read decimal (write style j) = some j := by
  have hback : ReadsBack (tree? decimal ((chars style j).length + 1)) j (chars style j) :=
    h.readsBack (Nat.le_succ _)
  have hread := hback.read [] ends_nil
  have hskip := hback.skip_append []
  rw [List.append_nil] at hread hskip
  rw [read, write, String.toList_ofList, hskip, hread]
  rfl

end Trees

section Printable

variable {style : Style}

/-- The characters of digits and escapes are no control characters. -/
theorem le_of_mem_escapeUnit {unit : Nat} : ∀ c ∈ escapeUnit unit, 0x20 ≤ c.toNat := by
  have hdigits : ∀ d < 16, 0x20 ≤ (Nat.digitChar d).toNat := by decide
  have hdigit (n : Nat) : 0x20 ≤ (Nat.digitChar (n % 16)).toNat :=
    hdigits _ (Nat.mod_lt _ (by decide))
  simp only [escapeUnit, List.forall_mem_cons, hdigit, true_and]
  exact ⟨by decide, by decide, fun _ h => nomatch h⟩

/-- What is written of a character is no control character. -/
theorem WrittenAs.le_of_mem {c : Char} {text : List Char} (h : WrittenAs style c text) :
    ∀ d ∈ text, 0x20 ≤ d.toNat := by
  cases h with
  | short escape _ _ hprintable _ =>
    simp only [List.forall_mem_cons]
    exact ⟨by decide, hprintable, List.forall_mem_nil _⟩
  | code _ =>
    unfold escapeCode
    split
    · exact le_of_mem_escapeUnit
    · exact List.forall_mem_append.2 ⟨le_of_mem_escapeUnit, le_of_mem_escapeUnit⟩
  | plain _ _ hprintable _ => exact List.forall_mem_singleton.2 hprintable

/-- What is written of a text is no control character. -/
theorem le_of_mem_quoted {s : String} : ∀ c ∈ quoted style s, 0x20 ≤ c.toNat := by
  have hquote : ∀ c ∈ ['"'], 0x20 ≤ c.toNat := forall_mem_of_all (by decide)
  refine List.forall_mem_append.2 ⟨List.forall_mem_cons.2 ⟨by decide, fun c hc => ?_⟩, hquote⟩
  obtain ⟨d, -, hd⟩ := List.mem_flatMap.1 hc
  exact (writtenAs_escapeChar style d).le_of_mem c hd

/-- Brackets add no control characters to texts that have none. -/
theorem forall_mem_enclosed {left right : Char} {texts : List (List Char)}
    (hleft : 0x20 ≤ left.toNat) (hright : 0x20 ≤ right.toNat)
    (h : ∀ text ∈ texts, ∀ c ∈ text, 0x20 ≤ c.toNat) :
    ∀ c ∈ left :: separated texts ++ [right], 0x20 ≤ c.toNat := by
  have hlast : ∀ c ∈ [right], 0x20 ≤ c.toNat := fun c hc => List.mem_singleton.1 hc ▸ hright
  have hinner := forall_mem_separated (p := fun c => 0x20 ≤ c.toNat) (by decide) (by decide) h
  exact List.forall_mem_append.2 ⟨List.forall_mem_cons.2 ⟨hleft, hinner⟩, hlast⟩

/-- What is written of a tree without floating-point numbers has no control characters. -/
theorem le_of_mem_chars {j : Json} (h : j.IsExact) : ∀ c ∈ chars style j, 0x20 ≤ c.toNat := by
  have hall : ∀ w ∈ words, w.1.toList.all (fun c => decide (0x20 ≤ c.toNat)) = true := by decide
  have hwords : ∀ w ∈ words, ∀ c ∈ w.1.toList, 0x20 ≤ c.toNat := fun w hw =>
    forall_mem_of_all (hall w hw)
  induction h with
  | null => exact hwords _ (.head _)
  | bool b =>
    cases b with
    | true => exact hwords _ (.tail _ (.head _))
    | false => exact hwords _ (.tail _ (.tail _ (.head _)))
  | int n =>
    intro c hc
    have hdigit : ∀ c ∈ Text.Numeral.digitsOf n, 0x20 ≤ c.toNat := fun c hc => by
      have hrange := Text.toNat_of_isDigit (Text.Numeral.isDigit_of_mem_digitsOf c hc)
      omega
    rw [chars, show (toString n).toList = _ from Text.Numeral.toList_write n] at hc
    split at hc
    · exact List.forall_mem_cons.2 ⟨by decide, hdigit⟩ c hc
    · exact hdigit c hc
  | text s => exact le_of_mem_quoted
  | array items _ ih =>
    have hitems : ∀ text ∈ items.map (chars style), ∀ c ∈ text, 0x20 ≤ c.toNat := by
      intro text htext
      obtain ⟨j, hj, rfl⟩ := List.mem_map.1 htext
      exact ih j hj
    rw [chars, itemChars_eq]
    exact forall_mem_enclosed (by decide) (by decide) hitems
  | object members _ ih =>
    have hmembers : ∀ text ∈ members.map (memberText style), ∀ c ∈ text, 0x20 ≤ c.toNat := by
      intro text htext
      obtain ⟨m, hm, rfl⟩ := List.mem_map.1 htext
      exact List.forall_mem_append.2 ⟨le_of_mem_quoted,
        List.forall_mem_cons.2 ⟨by decide, List.forall_mem_cons.2 ⟨by decide, ih m hm⟩⟩⟩
    rw [chars, memberChars_eq]
    exact forall_mem_enclosed (by decide) (by decide) hmembers

end Printable

end Searchable.Json
