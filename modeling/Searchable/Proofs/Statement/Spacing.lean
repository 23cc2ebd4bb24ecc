import Searchable.Proofs.Statement.Capture

/-!
# Placeholders that stand apart

A placeholder stands apart when what comes before it keeps no bind from starting, what comes after
it makes no name longer, and neither is another placeholder. This is read off an expression alone
(`IsSpaced`), before any bind has a place in it. Texts whose placeholders stand apart may be joined
with spaces and parentheses (`SpacedAfter.append_cons`), and the sites of a condition over such an
expression are free (`Condition.isFree_of_isSpaced`).

The proof of the latter goes through the pieces between the placeholders: `ApartAfter` says of them
what `SpacedAfter` says of the whole.
-/

namespace Searchable

/-- Whether a character must not come right before a placeholder. -/
def crowdsLeft (c : Char) : Bool :=
  blocksBind c || c == '?'

/-- Whether a character must not come right after a placeholder. -/
def crowdsRight (c : Char) : Bool :=
  Text.isWordChar c || c == '?'

/-- All placeholders stand apart in some characters that come after the given one. -/
def SpacedAfter (before : Option Char) : List Char → Prop
  | [] => True
  | c :: rest =>
    (c = '?' → before.any crowdsLeft = false ∧ rest.head?.any crowdsRight = false) ∧
      SpacedAfter (some c) rest

/-- All placeholders of a text stand apart. -/
def IsSpaced (text : String) : Prop :=
  SpacedAfter none text.toList

instance SpacedAfter.instDecidable (before : Option Char) :
    (cs : List Char) → Decidable (SpacedAfter before cs)
  | [] => inferInstanceAs (Decidable True)
  | c :: rest =>
    have := instDecidable (some c) rest
    inferInstanceAs (Decidable
      ((c = '?' → before.any crowdsLeft = false ∧ rest.head?.any crowdsRight = false) ∧
        SpacedAfter (some c) rest))

instance (text : String) : Decidable (IsSpaced text) :=
  inferInstanceAs (Decidable (SpacedAfter none text.toList))

/-- What may come before a placeholder may come after one. -/
theorem crowdsRight_of_crowdsLeft {c : Char} (h : crowdsLeft c = false) :
    crowdsRight c = false := by
  unfold crowdsLeft blocksBind at h
  unfold crowdsRight
  simp only [Bool.or_eq_false_iff] at h ⊢
  exact ⟨h.1.1.1, h.2⟩

/-- A text without placeholders has none that touches anything. -/
theorem spacedAfter_of_not_mem {before : Option Char} {cs : List Char} (h : '?' ∉ cs) :
    SpacedAfter before cs := by
  induction cs generalizing before with
  | nil => trivial
  | cons c cs ih =>
    rw [List.mem_cons, not_or] at h
    exact ⟨fun hc => absurd hc.symm h.1, ih h.2⟩

namespace SpacedAfter

/-- A placeholder at the start may come after whatever may come before one. -/
theorem of_none {n : Char} {cs : List Char} (hn : crowdsLeft n = false)
    (h : SpacedAfter none cs) : SpacedAfter (some n) cs := by
  cases cs with
  | nil => trivial
  | cons c cs => exact ⟨fun hc => ⟨hn, (h.1 hc).2⟩, h.2⟩

/-- Placeholders still stand apart after texts are joined with a character that may be on either
side of one. -/
theorem append_cons {before : Option Char} {n : Char} {cs ds : List Char}
    (hcs : SpacedAfter before cs) (hn : crowdsLeft n = false) (hds : SpacedAfter none ds) :
    SpacedAfter before (cs ++ n :: ds) := by
  induction cs generalizing before with
  | nil =>
    refine ⟨?_, hds.of_none hn⟩
    rintro rfl
    exact absurd hn (by decide)
  | cons c cs ih =>
    refine ⟨fun hc => ⟨(hcs.1 hc).1, ?_⟩, ih hcs.2⟩
    cases cs with
    | nil => exact crowdsRight_of_crowdsLeft hn
    | cons d cs => exact (hcs.1 hc).2

end SpacedAfter

/-! ## The pieces between placeholders -/

/-- The first character of the text that some pieces are of. -/
def firstOf : List (List Char) → Option Char
  | [] => none
  | [p] => p.head?
  | p :: _ :: _ => p.head?.or (some '?')

/-- The placeholders between some pieces stand apart, in a text that comes after the given
character. -/
def ApartAfter (before : Option Char) : List (List Char) → Prop
  | [] => True
  | [_] => True
  | p :: q :: rest =>
    (p.getLast?.or before).any crowdsLeft = false ∧
      (firstOf (q :: rest)).any crowdsRight = false ∧ ApartAfter (some '?') (q :: rest)

/-- There is a piece even where there is no placeholder. -/
theorem exists_pieces_eq_cons (cs : List Char) : ∃ p ps, pieces cs = p :: ps := by
  refine List.exists_cons_of_length_pos ?_
  rw [length_pieces]
  exact Nat.succ_pos _

/-- The pieces of a text start as the text does. -/
theorem firstOf_pieces (cs : List Char) : firstOf (pieces cs) = cs.head? := by
  cases cs with
  | nil => rfl
  | cons c cs =>
    obtain ⟨p, ps, hps⟩ := exists_pieces_eq_cons cs
    by_cases hc : c = '?'
    · rw [pieces, if_pos hc, hps, hc]
      rfl
    · rw [pieces, if_neg hc, hps]
      cases ps <;> rfl

/-- The pieces of a text are apart when its placeholders are. -/
theorem SpacedAfter.apartAfter_pieces {before : Option Char} {cs : List Char}
    (h : SpacedAfter before cs) : ApartAfter before (pieces cs) := by
  induction cs generalizing before with
  | nil => trivial
  | cons c cs ih =>
    obtain ⟨p, ps, hps⟩ := exists_pieces_eq_cons cs
    have hrest := ih h.2
    by_cases hc : c = '?'
    · obtain ⟨hbefore, hafter⟩ := h.1 hc
      rw [← firstOf_pieces] at hafter
      rw [pieces, if_pos hc]
      rw [hc] at hrest
      rw [hps] at hafter hrest ⊢
      exact ⟨hbefore, hafter, hrest⟩
    · rw [pieces, if_neg hc]
      rw [hps] at hrest ⊢
      cases ps with
      | nil => trivial
      | cons q ps =>
        -- The piece has one more character at its start, and the same one at its end.
        have hlast : (c :: p).getLast?.or before = p.getLast?.or (some c) := by
          rw [List.getLast?_cons]
          cases p.getLast? <;> rfl
        refine ⟨?_, hrest.2⟩
        rw [hlast]
        exact hrest.1

/-! ## Free sites -/

/-- Escaping changes no last character. -/
theorem getLast?_escapeColons (cs : List Char) : (escapeColons cs).getLast? = cs.getLast? := by
  induction cs with
  | nil => rfl
  | cons c cs ih =>
    rw [escapeColons]
    split
    · rw [List.getLast?_cons, List.getLast?_cons, ih, List.getLast?_cons, Option.getD_some]
    · rw [List.getLast?_cons, ih, List.getLast?_cons]

/-- Escaped characters start with no word character if they did not before. -/
theorem head?_escapeColons {cs : List Char} (h : cs.head?.any Text.isWordChar = false) :
    (escapeColons cs).head?.any Text.isWordChar = false := by
  cases cs with
  | nil => rfl
  | cons c cs =>
    rw [escapeColons]
    split
    · exact isWordChar_escapeMark
    · exact h

namespace TextClause

/-- The text of some pieces and binds starts with no word character if the pieces do not, and not
with a placeholder either. -/
theorem head?_interleave {ps : List (List Char)} {bss : List (List Bind)}
    (hlen : ps.length = bss.length + 1) (h : (firstOf ps).any crowdsRight = false) :
    (interleave ps bss).head?.any Text.isWordChar = false := by
  obtain ⟨p, ps, rfl⟩ := List.exists_cons_of_length_eq_add_one hlen
  cases p with
  | nil =>
    cases ps with
    | nil =>
      rw [List.length_singleton, right_eq_add, List.length_eq_zero_iff] at hlen
      rw [hlen]
      rfl
    | cons q ps => exact absurd (show crowdsRight '?' = false from h) (by decide)
  | cons c p =>
    have hc : Text.isWordChar c = false := by
      have hcrowds : crowdsRight c = false := by cases ps <;> exact h
      unfold crowdsRight at hcrowds
      exact (Bool.or_eq_false_iff.mp hcrowds).1
    have hhead : (escapeColons (c :: p)).head?.any Text.isWordChar = false :=
      head?_escapeColons hc
    obtain ⟨d, ds, hds⟩ : ∃ d ds, escapeColons (c :: p) = d :: ds := by
      rw [escapeColons]
      split <;> exact ⟨_, _, rfl⟩
    rw [hds] at hhead
    cases bss with
    | nil =>
      rw [interleave, hds]
      exact hhead
    | cons bs bss =>
      rw [interleave, hds]
      exact hhead

/-- The sites between pieces that are apart are free. -/
theorem isFree_of_apartAfter {before : Option Char} {left : List Char} {ps : List (List Char)}
    {bss : List (List Bind)} (hlen : ps.length = bss.length + 1)
    (hleft : before.any crowdsLeft = false → left.getLast?.any blocksBind = false)
    (h : ApartAfter before ps) : ∀ s ∈ sitesFrom left ps bss, s.IsFree := by
  induction ps generalizing before left bss with
  | nil => simp [sitesFrom]
  | cons p ps ih =>
    cases bss with
    | nil => simp [sitesFrom]
    | cons bs bss =>
      rw [List.length_cons, List.length_cons, Nat.add_right_cancel_iff] at hlen
      obtain ⟨q, rest, rfl⟩ := List.exists_cons_of_length_eq_add_one hlen
      obtain ⟨hbefore, hafter, hrest⟩ := h
      rw [sitesFrom, List.forall_mem_cons]
      -- Further sites come after a placeholder, so that nothing is asked of what comes before.
      refine ⟨fun _ => ⟨?_, head?_interleave hlen hafter⟩,
        ih hlen (fun hmark => absurd hmark (by decide)) hrest⟩
      show (left ++ escapeColons p).getLast?.any blocksBind = false
      rw [List.getLast?_append, getLast?_escapeColons]
      cases hp : p.getLast? with
      | none =>
        rw [hp] at hbefore
        exact hleft hbefore
      | some c =>
        rw [hp] at hbefore
        have hcrowds : crowdsLeft c = false := hbefore
        unfold crowdsLeft at hcrowds
        exact (Bool.or_eq_false_iff.mp hcrowds).1

end TextClause

/-- The sites of a condition are free when all placeholders of its expression stand apart. -/
theorem Condition.isFree_of_isSpaced {c : Condition}
    (harity : placeholders c.expression = c.params.length) (h : IsSpaced c.expression) :
    ∀ s ∈ c.sites, s.IsFree := by
  refine TextClause.isFree_of_apartAfter ?_ (fun _ => rfl) h.apartAfter_pieces
  rw [length_pieces, length_ofParams, ← harity]
  rfl

end Searchable
