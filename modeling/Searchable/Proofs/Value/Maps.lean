import Searchable.Proofs.Lookup
import Searchable.Proofs.Value.Sameness

/-!
# Sameness of maps from names

Two maps are the same as values when each entry of one is found in the other. Where their keys are
names and each name comes once, this is to say that a look-up finds values that are the same in
both, or nothing in either (`Value.same_names_iff`), so that the order of the entries does not
count.
-/

namespace Searchable

namespace Value

/-- A text is the same as another value exactly when that is the text, or its name. -/
theorem same_text_iff {s : String} {v : Value} : same (text s) v = true ↔ v.text? = some s := by
  rw [same_iff_alike]
  constructor
  · intro h
    cases h with
    | token t ha hb =>
      obtain rfl : Token.text s = t := Option.some.inj ha
      exact token?_eq_some_iff.1 hb
    | sets ha hb h => cases ha
  · intro h
    exact .token (.text s) rfl (token?_eq_some_iff.2 h)

/-- A strategy is the same as another value exactly when that is the strategy or its name. -/
theorem same_strategy_iff {s : Strategy} {v : Value} :
    same (strategy s) v = true ↔ v.text? = some s.name := by
  rw [← same_text_iff]
  have hname : same (text s.name) (strategy s) = true := same_text_iff.2 rfl
  exact ⟨same_trans hname, same_trans (same_symm hname)⟩

/-- Maps from distinct names are the same exactly when look-ups find the same values in both. -/
theorem same_names_iff {α β : Type} {es : Entries α} {fs : Entries β} (f : α → Value)
    (g : β → Value) (hes : es.names.Nodup) (hfs : fs.names.Nodup) :
    same (map (es.map fun e => (text e.1, f e.2))) (map (fs.map fun e => (text e.1, g e.2))) =
        true ↔
      ∀ name, Option.Rel (fun a b => same (f a) (g b) = true) (es.get? name) (fs.get? name) := by
  have hentry (n m : String) (v w : Value) :
      SameEntry (text n, v) (text m, w) ↔ n = m ∧ same v w = true := by
    rw [SameEntry, same_text_iff]
    exact and_congr_left' ⟨fun h => (Option.some.inj h).symm, fun h => congrArg some h.symm⟩
  rw [same, covers_entries_iff, Entries.forall_rel_get?_iff hes hfs]
  simp only [Covers, List.mem_map, forall_exists_index, and_imp, forall_apply_eq_imp_iff₂,
    exists_exists_and_eq_and, hentry]

end Value

end Searchable
