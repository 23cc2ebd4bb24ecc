/-!
# Endings of texts

`dropEnding?` takes a known ending off a text; `dropEnding?_eq_some_iff` says that it succeeds
exactly when the text ends so, and with what comes before.
-/

namespace Searchable.Text

/-- The characters before an ending, if they end so. -/
def dropEnding? (ending : List Char) : List Char → Option (List Char)
  | [] => if ending = [] then some [] else none
  | c :: cs => if ending = c :: cs then some [] else (dropEnding? ending cs).map (c :: ·)

/-- What comes before an ending is found exactly when it is there. -/
theorem dropEnding?_eq_some_iff {ending cs start : List Char} :
    dropEnding? ending cs = some start ↔ cs = start ++ ending := by
  induction cs generalizing start with
  | nil =>
    by_cases h : ending = []
    · simp [dropEnding?, h, eq_comm]
    · simp [dropEnding?, h]
  | cons c cs ih =>
    by_cases h : ending = c :: cs
    · constructor
      · intro hs
        have hs' : [] = start := by simpa [dropEnding?, h] using hs
        rw [← hs', h, List.nil_append]
      · intro hs
        have hl := congrArg List.length hs
        have hn : start = [] := by
          rw [h, List.length_append] at hl
          exact List.eq_nil_of_length_eq_zero (by omega)
        simp [dropEnding?, h, hn]
    · have h' : ¬c :: cs = ending := fun e => h e.symm
      rw [dropEnding?, if_neg h]
      cases start with
      | nil => simp [h']
      | cons d start =>
        simp only [Option.map_eq_some_iff, ih, List.cons_append, List.cons.injEq]
        constructor
        · rintro ⟨_, hcs, rfl, rfl⟩
          exact ⟨rfl, hcs⟩
        · rintro ⟨rfl, hcs⟩
          exact ⟨start, hcs, rfl, rfl⟩

end Searchable.Text
