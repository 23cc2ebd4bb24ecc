import Searchable.Text.Numeral

/-!
# Whole numbers that are read back

A whole number that is written in decimal is read as itself, whatever its sign, and is refused only
for having more digits than are read (`Numeral.read_write`). Of all that the reading allows, a
numeral that was written has nothing but a minus sign: there is nothing to trim
(`trimWhile_eq_self`), and the digits are those whose values are summed up
(`Numeral.digitsFrom?_of_digits`). The numbers that have too many digits for anyone to see begin
with a power of ten (`Numeral.isLong_iff`).
-/

namespace Searchable.Text

/-- The code points of the decimal digits. -/
theorem toNat_of_isDigit {c : Char} (h : c.isDigit = true) : 0x30 ≤ c.toNat ∧ c.toNat < 0x3A := by
  have hrange : 48 ≤ c.toNat ∧ c.toNat ≤ 57 := by
    simpa [Char.isDigit, UInt32.le_iff_toNat_le] using h
  omega

/-- The value of a decimal digit is its distance from zero. -/
theorem digitValue?_of_isDigit {c : Char} (h : c.isDigit = true) :
    digitValue? c = some (c.toNat - '0'.toNat) := by
  have hrange := toNat_of_isDigit h
  have hnought : (decide (0x30 ≤ c.toNat) && decide (c.toNat < 0x30 + 10)) = true := by
    rw [Bool.and_eq_true, decide_eq_true_iff, decide_eq_true_iff]
    omega
  have hfind : zeroDigits.find? (fun nought => nought ≤ c.toNat && c.toNat < nought + 10) =
      some 0x30 := List.find?_cons_of_pos hnought
  rw [digitValue?, hfind]
  rfl

/-- A character that can be seen on an old terminal is not blank. -/
theorem isNumeralBlank_of_graphic {c : Char} (hlow : 0x21 ≤ c.toNat) (hhigh : c.toNat < 0x7F) :
    isNumeralBlank c = false := by
  have hblank : isBlankChar c = false := by
    unfold isBlankChar blanks CharSet.contains
    rw [CharSet.memberFrom, if_neg (by omega), CharSet.memberFrom, if_neg (by omega),
      CharSet.memberFrom, if_neg (by omega), CharSet.memberFrom, if_neg (by omega),
      CharSet.memberFrom, if_pos (by omega)]
    rfl
  rw [isNumeralBlank, hblank, Bool.false_and]

/-- Where nothing is to be trimmed, nothing is. -/
theorem trimWhile_eq_self {p : Char → Bool} {cs : List Char} (h : ∀ c ∈ cs, p c = false) :
    trimWhile p cs = cs := by
  have hkeeps {ds : List Char} (hd : ∀ c ∈ ds, p c = false) : ds.dropWhile p = ds := by
    cases ds with
    | nil => rfl
    | cons d ds => rw [List.dropWhile_cons_of_neg]; simp [hd d List.mem_cons_self]
  have hback : ∀ c ∈ cs.reverse, p c = false := fun c hc => h c (List.mem_reverse.1 hc)
  rw [trimWhile, hkeeps h, dropEndWhile, hkeeps hback, List.reverse_reverse]

namespace Numeral

variable {cs : List Char}

/-- A digit is not the mark between digits. -/
theorem ne_underscore_of_isDigit {c : Char} (h : c.isDigit = true) : c ≠ '_' := by
  rintro rfl
  cases h

/-- The number that digits continue, one by one. -/
theorem digitsFrom?_of_digits (h : ∀ c ∈ cs, c.isDigit = true) (value : Nat) :
    digitsFrom? value cs = some (Nat.ofDigitChars 10 cs value) := by
  induction cs generalizing value with
  | nil => rfl
  | cons c cs ih =>
    obtain ⟨hc, hrest⟩ := List.forall_mem_cons.1 h
    have hstep : digitsFrom? value (c :: cs) =
        (digitValue? c).bind fun d => digitsFrom? (value * 10 + d) cs := by
      rw [digitsFrom?]
      exact fun _ _ hmark => absurd hmark (ne_underscore_of_isDigit hc)
    rw [hstep, digitValue?_of_isDigit hc, Option.bind_some, ih hrest, Nat.ofDigitChars_cons,
      Nat.mul_comm]

/-- The number that digits make. -/
theorem digits?_of_digits (h : ∀ c ∈ cs, c.isDigit = true) (hne : cs ≠ []) :
    digits? cs = some (Nat.ofDigitChars 10 cs 0) := by
  cases cs with
  | nil => exact absurd rfl hne
  | cons c cs =>
    obtain ⟨hc, hrest⟩ := List.forall_mem_cons.1 h
    rw [digits?, digitValue?_of_isDigit hc, Option.bind_some, digitsFrom?_of_digits hrest,
      Nat.ofDigitChars_cons, Nat.mul_zero, Nat.zero_add]

/-- Digits go on to their end. -/
theorem runFrom_of_digits (h : ∀ c ∈ cs, c.isDigit = true) (count : Nat) :
    runFrom count cs = count + cs.length := by
  induction cs generalizing count with
  | nil => rfl
  | cons c cs ih =>
    obtain ⟨hc, hrest⟩ := List.forall_mem_cons.1 h
    have hmark : c ≠ '_' := ne_underscore_of_isDigit hc
    have hstep : runFrom count (c :: cs) = runFrom (count + 1) cs := by
      rw [runFrom]
      · rw [if_neg hmark, digitValue?_of_isDigit hc]
        rfl
      · exact fun _ _ h => absurd h hmark
    rw [hstep, ih hrest, List.length_cons]
    omega

/-- A run of digits has all of them. -/
theorem run_of_digits (h : ∀ c ∈ cs, c.isDigit = true) : run cs = cs.length := by
  have hhead : cs.head? ≠ some '_' := by
    intro hmark
    exact ne_underscore_of_isDigit (h _ (List.mem_of_head? hmark)) rfl
  rw [run, if_neg hhead, runFrom_of_digits h, Nat.zero_add]

/-- The digits of a whole number are decimal digits. -/
theorem isDigit_of_mem_digitsOf {n : Int} : ∀ c ∈ digitsOf n, c.isDigit = true := fun _ hc =>
  Nat.isDigit_of_mem_toDigits (by decide) (by decide) hc

/-- A whole number is written as its digits, after a minus sign if it is negative. -/
theorem toList_write (n : Int) :
    (write n).toList = if n < 0 then '-' :: digitsOf n else digitsOf n := by
  rw [write, Int.toString_eq_repr, Int.repr_eq_if, digitsOf]
  by_cases h : 0 ≤ n
  · rw [if_pos h, if_neg (by omega), Nat.toList_repr, show n.toNat = n.natAbs by omega]
  · rw [if_neg h, if_pos (by omega), String.toList_append, Nat.toList_repr,
      show (-n).toNat = n.natAbs by omega]
    rfl

/-- The sign of what is written is that of the number, and the digits follow it. -/
theorem afterSign_write (n : Int) :
    afterSign (trimWhile isNumeralBlank (write n).toList) = (decide (n < 0), digitsOf n) := by
  have hgraphic : ∀ c ∈ digitsOf n, isNumeralBlank c = false := fun c hc => by
    have hrange := toNat_of_isDigit (isDigit_of_mem_digitsOf c hc)
    exact isNumeralBlank_of_graphic (by omega) (by omega)
  rw [toList_write]
  by_cases h : n < 0
  · have hsigned : ∀ c ∈ '-' :: digitsOf n, isNumeralBlank c = false :=
      List.forall_mem_cons.2 ⟨by decide, hgraphic⟩
    rw [if_pos h, trimWhile_eq_self hsigned, afterSign, decide_eq_true h]
  · rw [if_neg h, trimWhile_eq_self hgraphic, decide_eq_false h, afterSign]
    all_goals
      intro ds hds
      have hdigit := isDigit_of_mem_digitsOf (n := n)
      rw [hds] at hdigit
      cases hdigit _ List.mem_cons_self

/-- What is written is read as the number, unless it has more digits than are read. -/
theorem read_write (limit : Nat) (n : Int) :
    read limit (write n) =
      if (digitsOf n).length ≤ limit then .ok n
      else .error (.tooLong (digitsOf n).length) := by
  have hdigits := isDigit_of_mem_digitsOf (n := n)
  have hne : digitsOf n ≠ [] := Nat.toDigits_ne_nil
  have hvalue : Nat.ofDigitChars 10 (digitsOf n) 0 = n.natAbs := Nat.ofDigitChars_ten_toDigits
  have hsigned : signed? (decide (n < 0)) (digitsOf n) = some n := by
    rw [signed?, digits?_of_digits hdigits hne, hvalue]
    show some (if decide (n < 0) = true then -(n.natAbs : Int) else n.natAbs) = some n
    rw [Option.some.injEq]
    by_cases h : n < 0
    · rw [decide_eq_true h, if_pos rfl]
      omega
    · rw [decide_eq_false h, if_neg Bool.false_ne_true]
      omega
  rw [read, afterSign_write]
  simp only [run_of_digits hdigits, hsigned]
  by_cases h : (digitsOf n).length ≤ limit
  · rw [if_neg (by omega), if_pos h]
  · rw [if_pos (by omega), if_neg h]

/-- The least number with more digits than a limit allows. -/
def leastOver (limit : Nat) : Nat :=
  Nat.pow 10 limit

/-- A limit to the digits of a number is one to the number. -/
theorem length_digitsOf_le_iff {limit : Nat} (h : 0 < limit) {n : Int} :
    (digitsOf n).length ≤ limit ↔ n.natAbs < leastOver limit :=
  Nat.length_toDigits_le_iff (by decide) h

/-- The numbers with too many digits are those from the least on, and their negatives. -/
theorem isLong_iff {n : Int} : isLong n = true ↔ leastOver maxDigits ≤ n.natAbs := by
  rw [isLong, decide_eq_true_iff, ← Nat.not_le, length_digitsOf_le_iff (by decide), Nat.not_lt]

/-- The least number with too many digits. -/
def leastLong : Int :=
  Int.ofNat (leastOver maxDigits)

/-- It has too many. -/
theorem isLong_leastLong : isLong leastLong = true := by
  have habs : leastLong.natAbs = leastOver maxDigits := Int.natAbs_natCast (leastOver maxDigits)
  exact isLong_iff.2 (Nat.le_of_eq habs.symm)

end Numeral

end Searchable.Text
