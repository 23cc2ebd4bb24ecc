import Searchable.Text.CharSet

/-!
# Blank characters and blank texts

A text is blank when all its characters are. `strip` removes the blank characters at both ends,
and `isBlank_iff_strip_eq` says that a blank text is one of which nothing is left.
-/

namespace Searchable.Text

/-- The blank characters: the Unicode space separators, the line and paragraph separators, and the
control characters that separate lines, columns or records. -/
def blanks : CharSet :=
  ⟨[0x9, 0xE, 0x1C, 0x21, 0x85, 0x86, 0xA0, 0xA1, 0x1680, 0x1681, 0x2000, 0x200B, 0x2028, 0x202A,
    0x202F, 0x2030, 0x205F, 0x2060, 0x3000, 0x3001]⟩

/-- Whether a character is blank. -/
def isBlankChar (c : Char) : Bool :=
  blanks.contains c

/-- The characters without those that satisfy `p` at the end. -/
def dropEndWhile (p : Char → Bool) (cs : List Char) : List Char :=
  (cs.reverse.dropWhile p).reverse

/-- The characters without those that satisfy `p` at either end. -/
def trimWhile (p : Char → Bool) (cs : List Char) : List Char :=
  dropEndWhile p (cs.dropWhile p)

/-- The text without the blank characters at either end. -/
def strip (s : String) : String :=
  String.ofList (trimWhile isBlankChar s.toList)

/-- Whether a text has no character that is not blank. -/
def isBlank (s : String) : Bool :=
  s.toList.all isBlankChar

/-- Nothing is left by dropping at the front exactly when all characters are dropped. -/
theorem dropWhile_eq_nil_iff_all {p : Char → Bool} {cs : List Char} :
    cs.dropWhile p = [] ↔ cs.all p = true := by
  induction cs with
  | nil => simp
  | cons c cs ih => by_cases h : p c = true <;> simp_all

/-- Trimming leaves nothing exactly when all characters are trimmed. -/
theorem trimWhile_eq_nil_iff {p : Char → Bool} {cs : List Char} :
    trimWhile p cs = [] ↔ cs.all p = true := by
  simp only [trimWhile, dropEndWhile, List.reverse_eq_nil_iff, dropWhile_eq_nil_iff_all,
    List.all_reverse]
  induction cs with
  | nil => simp
  | cons c cs ih => by_cases h : p c = true <;> simp_all

/-- A text is blank exactly when stripping leaves nothing of it. -/
theorem isBlank_iff_strip_eq {s : String} : isBlank s = true ↔ strip s = "" := by
  rw [isBlank, ← trimWhile_eq_nil_iff, strip, ← String.toList_inj, String.toList_ofList]
  simp

end Searchable.Text
