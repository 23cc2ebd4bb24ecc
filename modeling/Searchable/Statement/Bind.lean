import Searchable.Entries
import Searchable.Text.Word
import Searchable.Value

/-!
# Binds in statement texts

A statement text has a bind, a place for a value, where a colon is followed by a name. A colon that
follows a word character, another colon or a backslash starts none, and neither does one whose name
is followed by a colon. `Bind.namesIn` lists the names that a text has. Escaped colons start no
bind, and `unescapeColons_escapeColons` says that they show as they were.
-/

namespace Searchable

/-- A named place for a value, and the value. -/
structure Bind where
  /-- The name. -/
  name : String
  /-- The value. -/
  value : Value
  deriving Repr

/-- The mark that the name of a bind follows. -/
def bindMark : Char := ':'

/-- The mark that keeps a colon after it from starting a bind. -/
def escapeMark : Char := '\\'

/-- Whether a colon after this character starts no bind. -/
def blocksBind (c : Char) : Bool :=
  Text.isWordChar c || c == bindMark || c == escapeMark

namespace Bind

/-- The name at the start of what follows a colon: all word characters there, unless a colon comes
after them. -/
def nameAt? (cs : List Char) : Option String :=
  let name := cs.takeWhile Text.isWordChar
  if name.isEmpty ∨ (cs.dropWhile Text.isWordChar).head? = some bindMark then none
  else some (String.ofList name)

/-- The name of the bind that a character starts, given the character before it and the characters
after it. -/
def nameFrom? (before : Option Char) (c : Char) (rest : List Char) : Option String :=
  if c = bindMark ∧ before.any blocksBind = false then nameAt? rest else none

/-- The names of the binds in some characters after a given one. -/
def namesAfter (before : Option Char) : List Char → List String
  | [] => []
  | c :: rest => (nameFrom? before c rest).toList ++ namesAfter (some c) rest

/-- The names of the binds in a text, in order. -/
def namesIn (cs : List Char) : List String :=
  namesAfter none cs

end Bind

/-- Puts a backslash before every colon, so that none of them starts a bind. -/
def escapeColons : List Char → List Char
  | [] => []
  | c :: rest =>
    if c = bindMark then escapeMark :: c :: escapeColons rest else c :: escapeColons rest

/-- Whether a name and another colon follow, in which case a backslash is kept. -/
def keepsEscape (cs : List Char) : Bool :=
  (cs.dropWhile Text.isWordChar).head? == some bindMark

/-- Removes the backslash before every colon after which the text does not go on with another, be
it after a name. -/
def unescapeColons : List Char → List Char
  | [] => []
  | [c] => [c]
  | c :: d :: rest =>
    if c = escapeMark ∧ d = bindMark ∧ keepsEscape rest = false then unescapeColons (d :: rest)
    else c :: unescapeColons (d :: rest)

/-- A backslash is no word character. -/
theorem isWordChar_escapeMark : Text.isWordChar escapeMark = false := by
  decide

/-- After escaping, no name is followed by a bare colon. -/
theorem keepsEscape_escapeColons (cs : List Char) : keepsEscape (escapeColons cs) = false := by
  unfold keepsEscape
  induction cs with
  | nil => rfl
  | cons c rest ih =>
    by_cases hc : c = bindMark
    · rw [escapeColons, if_pos hc, List.dropWhile_cons_of_neg]
      · rfl
      · rw [isWordChar_escapeMark]
        decide
    · rw [escapeColons, if_neg hc]
      by_cases hn : Text.isWordChar c = true
      · rw [List.dropWhile_cons_of_pos hn]
        exact ih
      · rw [List.dropWhile_cons_of_neg hn]
        simpa using hc

/-- A character that is no backslash before a colon stays. -/
theorem unescapeColons_cons {c : Char} {cs : List Char}
    (h : c = escapeMark → cs.head? ≠ some bindMark) :
    unescapeColons (c :: cs) = c :: unescapeColons cs := by
  cases cs with
  | nil => rfl
  | cons d rest =>
    rw [unescapeColons, if_neg]
    rintro ⟨hc, hd, -⟩
    exact h hc (by simp [hd])

/-- Escaped colons show as they were. -/
theorem unescapeColons_escapeColons (cs : List Char) :
    unescapeColons (escapeColons cs) = cs := by
  induction cs with
  | nil => rfl
  | cons c rest ih =>
    by_cases hc : c = bindMark
    · subst hc
      rw [escapeColons, if_pos rfl, unescapeColons,
        if_pos ⟨rfl, rfl, keepsEscape_escapeColons rest⟩,
        unescapeColons_cons (fun h => absurd h (by decide)), ih]
    · rw [escapeColons, if_neg hc, unescapeColons_cons, ih]
      -- No colon comes first after escaping, so a backslash of the text itself stays.
      intro _
      cases rest with
      | nil => simp [escapeColons]
      | cons d rest =>
        by_cases hd : d = bindMark
        · rw [escapeColons, if_pos hd]
          simp [escapeMark, bindMark]
        · rw [escapeColons, if_neg hd]
          simpa using hd

end Searchable
